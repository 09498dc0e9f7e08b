import TrainingDemos.Loops
import TrainingDemos.Notifications

namespace TrainingDemos.NotiDemo
set_option autoImplicit true

namespace ViewController

/-- Both functions of the view controller register one category and add one request. -/
def send (category : NotificationCategory) (content : NotificationContent) (timeInterval : Nat)
    (identifier : String) (error : Option String) (center : NotificationCenter) :
    Option NotificationCenter := do
  let center := center.setNotificationCategories [category]
  let trigger ← TimeIntervalTrigger.make timeInterval true
  some (center.add ⟨identifier, content, trigger⟩ error)

def meetingInviteCategory : NotificationCategory :=
  ⟨"MEETING_INVITATION", [⟨"ACCEPT_ACTION", "Accept"⟩, ⟨"DECLINE_ACTION", "Decline"⟩], true⟩

def deleteInviteCategory : NotificationCategory :=
  ⟨"DELETE_INVITATION", [⟨"YES_ACTION", "Yes"⟩, ⟨"NO_ACTION", "NO"⟩], true⟩

def userInfo : List (String × String) := [("MEETING_ID", "Meeting"), ("USER_ID", "User")]

def meetingContent : NotificationContent where
  title := "Weekly Staff Meeting"
  body := "Every Tuesday at 2pm"
  categoryIdentifier := "MEETING_INVITATION"
  userInfo := userInfo

def deleteContent : NotificationContent where
  title := "Delete Notification"
  body := "Every Tuesday at 2pm"
  categoryIdentifier := "DELETE_INVITATION"
  userInfo := userInfo

def sendNotidfication : Option String → NotificationCenter → Option NotificationCenter :=
  send meetingInviteCategory meetingContent 60 "MEETING_INVITATION"

def sendNoti2dfication : Option String → NotificationCenter → Option NotificationCenter :=
  send deleteInviteCategory deleteContent 80 "DELETE_INVITATION"

end ViewController

inductive Line where
  | granted
  | error (text : String)
  | accept
  | decline
  deriving DecidableEq

/-- A completion handler that waits to be called. -/
inductive Completion where
  | authorization
  | added (error : Option String)
  deriving DecidableEq

structure App where
  center : NotificationCenter
  running : Bool
  inFlight : List Completion
  printed : List Line
  completed : Nat
  deriving DecidableEq

namespace App

def installed : App := ⟨.empty, false, [], [], 0⟩

/-- `didFinishLaunchingWithOptions` and `viewDidLoad`: both registrations are one event. -/
def launch (meetingError deleteError : Option String) (s : App) : Option App := do
  let center ← ViewController.sendNotidfication meetingError s.center
  let center ← ViewController.sendNoti2dfication deleteError center
  some { s with
    center := center
    running := true
    inFlight := [.authorization, .added meetingError, .added deleteError] }

def completion (granted : Bool) (s : App) : Completion → App
  | .authorization => if granted then { s with printed := s.printed ++ [.granted] } else s
  | .added (some error) => { s with printed := s.printed ++ [.error error] }
  | .added none => s

/-- `userNotificationCenter(_:didReceive:withCompletionHandler:)`. -/
def didReceive (content : NotificationContent) (actionIdentifier : String) (s : App) :
    Option App := do
  let _meetingID ← content.userInfo.lookup "MEETING_ID"
  let _userID ← content.userInfo.lookup "USER_ID"
  let s :=
    if actionIdentifier = "ACCEPT_ACTION" then { s with printed := s.printed ++ [.accept] }
    else if actionIdentifier = "DECLINE_ACTION" then { s with printed := s.printed ++ [.decline] }
    else s
  some { s with completed := s.completed + 1 }

inductive Event where
  | launch (meetingError deleteError : Option String)
  | terminate
  | completed (i : Nat) (granted : Bool)
  | fire (i : Nat)
  | respond (i : Nat) (actionIdentifier : String)
  deriving DecidableEq

/-- A response launches the app if it does not run, which is an event of its own. -/
def Enabled (s : App) : Event → Prop
  | .launch _ _ => s.running = false
  | .terminate => s.running = true
  | .completed i _ => i < s.inFlight.length
  | .fire i => i < s.center.pending.length
  | .respond i actionIdentifier => s.running = true ∧
      ∃ request ∈ s.center.delivered[i]?, actionIdentifier ∈ s.center.responses request.content

instance (s : App) : (e : Event) → Decidable (s.Enabled e)
  | .launch _ _ | .terminate => inferInstanceAs (Decidable (_ = _))
  | .completed _ _ | .fire _ => inferInstanceAs (Decidable (_ < _))
  | .respond _ _ => inferInstanceAs (Decidable (_ ∧ _))

def step (s : App) : Event → Option App
  | .launch meetingError deleteError => s.launch meetingError deleteError
  | .terminate => some { s with running := false, inFlight := [] }
  | .completed i granted => do
    let completion ← s.inFlight[i]?
    some ({ s with inFlight := s.inFlight.eraseIdx i }.completion granted completion)
  | .fire i => do
    let center ← s.center.fire i
    some { s with center := center }
  | .respond i actionIdentifier => do
    let request ← s.center.delivered[i]?
    { s with center := s.center.remove i }.didReceive request.content actionIdentifier

end App

def invitations : Machine App App.Event where
  enabled := App.Enabled
  step := App.step

instance (s : App) (e : App.Event) : Decidable (invitations.enabled s e) :=
  inferInstanceAs (Decidable (s.Enabled e))

open ViewController in
def meetingInvitation : NotificationRequest :=
  ⟨"MEETING_INVITATION", meetingContent, ⟨60, true, by decide, by decide⟩⟩

open ViewController in
def deleteInvitation : NotificationRequest :=
  ⟨"DELETE_INVITATION", deleteContent, ⟨80, true, by decide, by decide⟩⟩

def Invitation (r : NotificationRequest) : Prop := r = meetingInvitation ∨ r = deleteInvitation

def App.Event.Accepts (r : NotificationRequest) : App.Event → Prop
  | .launch meetingError deleteError =>
    r = meetingInvitation ∧ meetingError = none ∨ r = deleteInvitation ∧ deleteError = none
  | _ => False

def App.Event.isRespond : App.Event → Bool
  | .respond _ _ => true
  | _ => false

namespace App
variable {s t : App}

/-- The category registered last has replaced the other one, and no response was acted on. -/
structure Unanswered (s : App) : Prop where
  registered : s.center = .empty ∨ s.center.categories = [ViewController.deleteInviteCategory]
  invitations : s.center.Each Invitation
  silent : ∀ line ∈ s.printed, line ≠ .accept ∧ line ≠ .decline

theorem mem_pending_add (hc : c.Each Invitation) (hq : Invitation q) :
    r ∈ (NotificationCenter.add q error c).pending ↔ r ∈ c.pending ∨ r = q ∧ error = none := by
  cases error with
  | some error =>
    change r ∈ c.pending ↔ _
    simp only [reduceCtorEq, and_false, or_false]
  | none =>
    change r ∈ putLast NotificationRequest.identifier q c.pending ↔ _
    rw [mem_putLast]
    apply Iff.intro
    · intro h
      obtain hold | hnew := h
      · exact .inl hold.1
      · exact .inr ⟨hnew, rfl⟩
    · intro h
      obtain hold | hnew := h
      · by_cases hkey : r.identifier = q.identifier
        · -- the two invitations have different identifiers
          apply Or.inr
          obtain rfl | rfl := hc.pending r hold <;> obtain rfl | rfl := hq
          · rfl
          · exact absurd hkey (by decide)
          · exact absurd hkey (by decide)
          · rfl
        · exact .inl ⟨hold, hkey⟩
      · exact .inr hnew.1

theorem launch_eq (s : App) (meetingError deleteError : Option String) :
    s.launch meetingError deleteError = some { s with
      center := (((s.center.setNotificationCategories [ViewController.meetingInviteCategory]).add
        meetingInvitation meetingError).setNotificationCategories
          [ViewController.deleteInviteCategory]).add deleteInvitation deleteError
      running := true
      inFlight := [.authorization, .added meetingError, .added deleteError] } := rfl

theorem mem_pending_launch (hs : s.Unanswered) (h : s.launch meetingError deleteError = some t) :
    r ∈ t.center.pending ↔
      r ∈ s.center.pending ∨ (Event.launch meetingError deleteError).Accepts r := by
  rw [launch_eq] at h
  cases h
  have hregister := hs.invitations.register [ViewController.meetingInviteCategory]
  have hmeeting := (hregister.add meetingError (.inl rfl)).register
    [ViewController.deleteInviteCategory]
  apply (mem_pending_add hmeeting (.inr rfl)).trans
  apply (or_congr_left (mem_pending_add hregister (.inl rfl))).trans
  exact or_assoc

theorem mem_pending_step (hs : s.Unanswered) (h : s.step e = some t) :
    r ∈ t.center.pending ↔ r ∈ s.center.pending ∨ e.Accepts r := by
  cases e with
  | launch meetingError deleteError => exact mem_pending_launch hs h
  | terminate =>
    cases h
    exact (or_iff_left id).symm
  | completed i granted =>
    obtain ⟨completion, -, ht⟩ := Option.bind_eq_some_iff.1 h
    cases ht
    refine Iff.trans ?_ (or_iff_left id).symm
    rcases completion with _ | _ | error
    · rw [App.completion]
      split <;> exact Iff.rfl
    · exact Iff.rfl
    · exact Iff.rfl
  | fire i =>
    obtain ⟨center, hf, ht⟩ := Option.bind_eq_some_iff.1 h
    cases ht
    obtain ⟨request, hr, -, -, hp⟩ := NotificationCenter.fire_cases hf
    have hrepeats : request.trigger.repeats = true := by
      obtain rfl | rfl := hs.invitations.pending request (List.mem_of_getElem? hr) <;> rfl
    rw [if_pos hrepeats] at hp
    rw [hp]
    exact (or_iff_left id).symm
  | respond i actionIdentifier =>
    obtain ⟨request, -, ht⟩ := Option.bind_eq_some_iff.1 h
    obtain ⟨_, -, ht⟩ := Option.bind_eq_some_iff.1 ht
    obtain ⟨_, -, ht⟩ := Option.bind_eq_some_iff.1 ht
    cases ht
    refine Iff.trans ?_ (or_iff_left id).symm
    dsimp only
    split
    · exact Iff.rfl
    · split <;> exact Iff.rfl

theorem Unanswered.responses (hs : s.Unanswered) (hr : r ∈ s.center.delivered) :
    s.center.responses ViewController.meetingContent =
      [NotificationCenter.defaultActionIdentifier] ∧
    s.center.responses ViewController.deleteContent =
      [NotificationCenter.defaultActionIdentifier, "YES_ACTION", "NO_ACTION",
        NotificationCenter.dismissActionIdentifier] := by
  have hregistered := hs.registered.resolve_left fun he => by
    rw [he] at hr
    cases hr
  rw [NotificationCenter.responses, NotificationCenter.responses, hregistered]
  decide

theorem didReceive_eq (hr : Invitation r) (ha : a ≠ "ACCEPT_ACTION" ∧ a ≠ "DECLINE_ACTION")
    (s : App) : s.didReceive r.content a = some { s with completed := s.completed + 1 } := by
  have hinfo : r.content.userInfo = ViewController.userInfo := by
    obtain rfl | rfl := hr <;> rfl
  have hmeeting : ViewController.userInfo.lookup "MEETING_ID" = some "Meeting" := rfl
  have huser : ViewController.userInfo.lookup "USER_ID" = some "User" := rfl
  rw [didReceive, hinfo, hmeeting, huser]
  simp only [Option.bind_eq_bind, Option.bind_some, if_neg ha.1, if_neg ha.2]

theorem Unanswered.respond (hs : s.Unanswered) (hen : s.Enabled (.respond i a)) :
    s.step (.respond i a) =
      some { s with center := s.center.remove i, completed := s.completed + 1 } := by
  obtain ⟨-, r, hr, ha⟩ := hen
  have hr : s.center.delivered[i]? = some r := hr
  have hinv := hs.invitations.delivered r (List.mem_of_getElem? hr)
  obtain ⟨hm, hd⟩ := hs.responses (List.mem_of_getElem? hr)
  have hignored : a ≠ "ACCEPT_ACTION" ∧ a ≠ "DECLINE_ACTION" := by
    obtain rfl | rfl := hinv
    · rw [meetingInvitation, hm] at ha
      exact (by decide : ∀ a ∈ [NotificationCenter.defaultActionIdentifier],
        a ≠ "ACCEPT_ACTION" ∧ a ≠ "DECLINE_ACTION") a ha
    · rw [deleteInvitation, hd] at ha
      exact (by decide : ∀ a ∈ [NotificationCenter.defaultActionIdentifier, "YES_ACTION",
        "NO_ACTION", NotificationCenter.dismissActionIdentifier],
        a ≠ "ACCEPT_ACTION" ∧ a ≠ "DECLINE_ACTION") a ha
  rw [step, hr]
  exact didReceive_eq hinv hignored _

theorem Unanswered.launch (hs : s.Unanswered) (h : s.launch meetingError deleteError = some t) :
    t.Unanswered := by
  rw [launch_eq] at h
  cases h
  refine ⟨.inr ?_, ?_, hs.silent⟩
  · cases deleteError <;> rfl
  · have hregister := hs.invitations.register [ViewController.meetingInviteCategory]
    have hmeeting := (hregister.add meetingError (.inl rfl)).register
      [ViewController.deleteInviteCategory]
    exact hmeeting.add deleteError (.inr rfl)

theorem Unanswered.completion (hs : s.Unanswered) (granted : Bool) (completion : Completion) :
    (s.completion granted completion).Unanswered := by
  rcases completion with _ | _ | error
  · rw [App.completion]
    split
    · refine ⟨hs.registered, hs.invitations, forall_mem_concat hs.silent ?_⟩
      decide
    · exact hs
  · exact hs
  · refine ⟨hs.registered, hs.invitations, forall_mem_concat hs.silent ?_⟩
    exact ⟨nofun, nofun⟩

theorem Unanswered.step (hs : s.Unanswered) (hen : s.Enabled e) :
    ∃ t, s.step e = some t ∧ t.Unanswered := by
  cases e with
  | launch meetingError deleteError => exact ⟨_, launch_eq s _ _, hs.launch (launch_eq s _ _)⟩
  | terminate => exact ⟨_, rfl, hs.registered, hs.invitations, hs.silent⟩
  | completed i granted =>
    refine ⟨_, by rw [App.step, List.getElem?_eq_getElem hen]; rfl, ?_⟩
    have hs' : Unanswered { s with inFlight := s.inFlight.eraseIdx i } :=
      ⟨hs.registered, hs.invitations, hs.silent⟩
    exact hs'.completion granted _
  | fire i =>
    obtain ⟨center, hf⟩ := Option.isSome_iff_exists.1 (NotificationCenter.fire_isSome hen)
    obtain ⟨request, hr, hc, -, -⟩ := NotificationCenter.fire_cases hf
    refine ⟨{ s with center := center }, by rw [App.step, hf]; rfl, .inr ?_, ?_, hs.silent⟩
    · rcases hs.registered with he | hregistered
      · rw [he] at hr
        cases hr
      · exact hc.trans hregistered
    · exact hs.invitations.fire hf
  | respond i a =>
    refine ⟨_, hs.respond hen, ?_, hs.invitations.remove i, hs.silent⟩
    exact hs.registered.imp_left fun he => by
      rw [he]
      rfl

theorem unanswered_installed : installed.Unanswered where
  registered := .inl rfl
  invitations := .empty
  silent := nofun

theorem Unanswered.completed_step (hs : s.Unanswered) (hen : s.Enabled e)
    (h : s.step e = some t) : t.completed = s.completed + [e].countP Event.isRespond := by
  cases e with
  | launch meetingError deleteError =>
    rw [App.step, launch_eq] at h
    cases h
    rfl
  | terminate =>
    cases h
    rfl
  | completed i granted =>
    obtain ⟨completion, -, ht⟩ := Option.bind_eq_some_iff.1 h
    cases ht
    rcases completion with _ | _ | error
    · rw [App.completion]
      split <;> rfl
    · rfl
    · rfl
  | fire i =>
    obtain ⟨center, -, ht⟩ := Option.bind_eq_some_iff.1 h
    cases ht
    rfl
  | respond i a =>
    rw [hs.respond hen] at h
    cases h
    rfl

theorem run_unanswered (hs : s.Unanswered) (h : invitations.Run (fun _ _ => True) s es t) :
    t.Unanswered ∧ t.completed = s.completed + es.countP Event.isRespond ∧
    ∀ r, r ∈ t.center.pending ↔ r ∈ s.center.pending ∨ ∃ e ∈ es, e.Accepts r := by
  induction h with
  | nil s =>
    refine ⟨hs, rfl, fun r => (or_iff_left ?_).symm⟩
    intro he
    obtain ⟨e, he, -⟩ := he
    cases he
  | @cons s e t es u hen hb hst hr ih =>
    obtain ⟨t', ht, ht'⟩ := hs.step hen
    have htt' : t' = t := Option.some.inj (ht.symm.trans hst)
    subst htt'
    obtain ⟨hu, hcount, hpending⟩ := ih ht'
    refine ⟨hu, ?_, fun r => ?_⟩
    · rw [hcount, hs.completed_step hen hst, Nat.add_assoc, ← List.countP_append]
      rfl
    · rw [hpending, mem_pending_step hs hst, or_assoc, List.exists_mem_cons_iff]

end App

/-- In every run from the installation: no invitation is accepted or declined, whatever the user
chooses, as a meeting invitation offers a tap alone and a delete invitation its own two actions;
each response is completed; the pending requests are those that were ever accepted, two at most;
and nothing traps. -/
theorem invitations_unanswered (h : invitations.Run (fun _ _ => True) .installed es s) :
    (∀ line ∈ s.printed, line ≠ .accept ∧ line ≠ .decline) ∧
    s.completed = es.countP App.Event.isRespond ∧
    (∀ r, r ∈ s.center.pending ↔ ∃ e ∈ es, e.Accepts r) ∧ s.center.pending.length ≤ 2 ∧
    (∀ r ∈ s.center.delivered,
      r = meetingInvitation ∧ s.center.responses r.content =
        [NotificationCenter.defaultActionIdentifier] ∨
      r = deleteInvitation ∧ s.center.responses r.content =
        [NotificationCenter.defaultActionIdentifier, "YES_ACTION", "NO_ACTION",
          NotificationCenter.dismissActionIdentifier]) ∧
    ∀ e, s.Enabled e → (s.step e).isSome := by
  obtain ⟨hs, hcount, hpending⟩ := App.run_unanswered App.unanswered_installed h
  refine ⟨hs.silent, hcount.trans (Nat.zero_add _), fun r => ?_, ?_, ?_, ?_⟩
  · rw [hpending]
    exact or_iff_right List.not_mem_nil
  · refine length_requests_le ["MEETING_INVITATION", "DELETE_INVITATION"]
      s.center.nodup_pending fun r hr => ?_
    obtain rfl | rfl := hs.invitations.pending r hr <;> decide
  · intro r hr
    obtain ⟨hm, hd⟩ := hs.responses hr
    obtain rfl | rfl := hs.invitations.delivered r hr
    · exact .inl ⟨rfl, hm⟩
    · exact .inr ⟨rfl, hd⟩
  · intro e hen
    obtain ⟨t, ht, -⟩ := hs.step hen
    exact Option.isSome_of_eq_some ht

def dismissed : List App.Event := [
  .launch (some "denied") none, .completed 0 true, .completed 0 false, .fire 0, .terminate,
  .launch none none, .fire 0, .respond 0 "NO_ACTION", .fire 1,
  .respond 1 NotificationCenter.dismissActionIdentifier,
  .respond 0 NotificationCenter.defaultActionIdentifier]

theorem invitations_unanswered_dismissed : ∃ s,
    invitations.Run (fun _ _ => True) .installed dismissed s ∧
    s.printed = [.granted, .error "denied"] ∧ s.completed = 3 ∧
    ∀ r, r ∈ s.center.pending ↔ ∃ e ∈ dismissed, e.Accepts r := by
  obtain ⟨s, hr, hs⟩ := Machine.run_of_exec invitations (fun _ _ => True) .installed dismissed
    (fun s => decide (s.printed = [.granted, .error "denied"] ∧ s.completed = 3))
    (by decide +kernel)
  obtain ⟨hprinted, hcompleted⟩ := of_decide_eq_true hs
  exact ⟨s, hr, hprinted, hcompleted, (invitations_unanswered hr).2.2.1⟩

end TrainingDemos.NotiDemo
