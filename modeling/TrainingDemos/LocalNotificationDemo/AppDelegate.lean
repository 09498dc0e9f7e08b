import TrainingDemos.Loops
import TrainingDemos.Notifications

namespace TrainingDemos.LocalNotificationDemo
set_option autoImplicit true

inductive AuthorizationStatus where
  | notDetermined
  | denied
  | authorized
  | provisional
  | ephemeral
  deriving DecidableEq

inductive Line where
  | notAllowed
  | requestAuthorizationFailed (error : String)
  | unableToAdd (error : String)
  | created
  deriving DecidableEq

/-- A call of the notification center whose completion handler has not been called yet. -/
inductive Call where
  | getNotificationSettings
  /-- The settings as they were when the center looked them up. -/
  | notificationSettings (authorizationStatus : AuthorizationStatus)
  | requestAuthorization
  | add (error : Option String)
  deriving DecidableEq

/-- The last component counts the calls of `scheduleLocalNotification`, and no handler reads it. -/
structure App where
  center : NotificationCenter
  authorizationStatus : AuthorizationStatus
  running : Bool
  inFlight : List Call
  printed : List Line
  scheduled : Nat
  deriving DecidableEq

def notificationContent : NotificationContent where
  title := "Cocoacasts"
  subtitle := "Local Notifications"
  body := "In this tutorial, you learn how to schedule local notifications with the " ++
    "User Notifications framework."

namespace App

def installed : App := ⟨.empty, .notDetermined, false, [], [], 0⟩

def call (call : Call) (s : App) : App := { s with inFlight := s.inFlight ++ [call] }

def print (line : Line) (s : App) : App := { s with printed := s.printed ++ [line] }

/-- The center refuses the request of an app that is not authorized. -/
def scheduleLocalNotification (s : App) : Option App := do
  let notificationTrigger ← TimeIntervalTrigger.make 5 false
  let notificationRequest : NotificationRequest :=
    ⟨"cocoacasts_local_notification", notificationContent, notificationTrigger⟩
  let error := if s.authorizationStatus = .authorized then none else some "notificationsNotAllowed"
  some ({ s with
    center := s.center.add notificationRequest error
    scheduled := s.scheduled + 1 }.call (.add error))

/-- `requestAuthorization(completionHandler:)`, whose handler is that of the settings. -/
def requestAuthorization (s : App) : App := s.call .requestAuthorization

/-- The completion of `getNotificationSettings`. -/
def notificationSettings (s : App) : AuthorizationStatus → Option App
  | .notDetermined => some s.requestAuthorization
  | .authorized => s.scheduleLocalNotification
  | .denied => some (s.print .notAllowed)
  | .provisional => some s
  | .ephemeral => some s

/-- The completion of the center's `requestAuthorization`. -/
def authorizationRequested (success : Bool) (error : Option String) (s : App) : Option App :=
  let s := match error with
    | some error => s.print (.requestAuthorizationFailed error)
    | none => s
  if success then s.scheduleLocalNotification else some s

/-- The system asks the user once, and answers from then on what was chosen. -/
def decide (granted : Bool) (s : App) : App :=
  if s.authorizationStatus = .notDetermined then
    { s with authorizationStatus := if granted then .authorized else .denied }
  else s

def completed (granted : Bool) (error : Option String) (s : App) : Call → Option App
  | .getNotificationSettings => some s
  | .notificationSettings authorizationStatus => s.notificationSettings authorizationStatus
  | .requestAuthorization =>
    match error with
    | some error => s.authorizationRequested false (some error)
    | none =>
      let s := s.decide granted
      s.authorizationRequested (s.authorizationStatus == .authorized) none
  | .add (some error) => some (s.print (.unableToAdd error))
  | .add none => some (s.print .created)

inductive Event where
  | launch
  | terminate
  | lookUp (i : Nat)
  | completed (i : Nat) (granted : Bool) (error : Option String)
  | turn (on : Bool)
  | fire (i : Nat)
  deriving DecidableEq

def Enabled (s : App) : Event → Prop
  | .launch => s.running = false
  | .terminate => s.running = true
  | .lookUp i => s.inFlight[i]? = some .getNotificationSettings
  | .completed i _ _ => i < s.inFlight.length ∧ s.inFlight[i]? ≠ some .getNotificationSettings
  | .turn _ => s.authorizationStatus ≠ .notDetermined
  | .fire i => i < s.center.pending.length

instance (s : App) : (e : Event) → Decidable (s.Enabled e)
  | .launch | .terminate | .lookUp _ => inferInstanceAs (Decidable (_ = _))
  | .completed _ _ _ => inferInstanceAs (Decidable (_ ∧ _))
  | .turn _ => inferInstanceAs (Decidable (_ ≠ _))
  | .fire _ => inferInstanceAs (Decidable (_ < _))

def step (s : App) : Event → Option App
  | .launch => some { s with running := true, inFlight := [.getNotificationSettings] }
  | .terminate => some { s with running := false, inFlight := [] }
  | .lookUp i =>
    some { s with inFlight := s.inFlight.set i (.notificationSettings s.authorizationStatus) }
  | .completed i granted error => do
    let call ← s.inFlight[i]?
    { s with inFlight := s.inFlight.eraseIdx i }.completed granted error call
  | .turn on => some { s with authorizationStatus := if on then .authorized else .denied }
  | .fire i => do
    let center ← s.center.fire i
    some { s with center := center }

end App

def notifier : Machine App App.Event where
  enabled := App.Enabled
  step := App.step

instance (s : App) (e : App.Event) : Decidable (notifier.enabled s e) :=
  inferInstanceAs (Decidable (s.Enabled e))

def localNotification : NotificationRequest :=
  ⟨"cocoacasts_local_notification", notificationContent, ⟨5, false, by decide, by decide⟩⟩

/-- The completion of the call may still schedule the notification. -/
def Call.schedules : Call → Bool
  | .add _ => false
  | _ => true

namespace App
variable {s t : App}

/-- How often the notification has been scheduled, and still may be by the calls in flight. -/
def promised (s : App) : Nat := s.scheduled + s.inFlight.countP Call.schedules

theorem scheduleLocalNotification_eq (s : App) :
    let error :=
      if s.authorizationStatus = .authorized then none else some "notificationsNotAllowed"
    s.scheduleLocalNotification = some { s with
      center := s.center.add localNotification error
      inFlight := s.inFlight ++ [.add error]
      scheduled := s.scheduled + 1 } := rfl

theorem completed_cases (s : App) (granted : Bool) (error : Option String) (call : Call) :
    ∃ t, s.completed granted error call = some t ∧
      (t.inFlight = s.inFlight ∧ t.center = s.center ∧ t.scheduled = s.scheduled ∨
      call.schedules = true ∧ t = s.call .requestAuthorization ∨
      call.schedules = true ∧
        (call = .notificationSettings .authorized ∨ t.authorizationStatus = .authorized) ∧
        ∃ refused, t.inFlight = s.inFlight ++ [.add refused] ∧
          t.center = s.center.add localNotification refused ∧ t.scheduled = s.scheduled + 1) := by
  cases call with
  | getNotificationSettings => exact ⟨s, rfl, .inl ⟨rfl, rfl, rfl⟩⟩
  | notificationSettings authorizationStatus =>
    cases authorizationStatus with
    | notDetermined => exact ⟨_, rfl, .inr (.inl ⟨rfl, rfl⟩)⟩
    | authorized =>
      exact ⟨_, s.scheduleLocalNotification_eq, .inr (.inr ⟨rfl, .inl rfl, _, rfl, rfl, rfl⟩)⟩
    | denied => exact ⟨_, rfl, .inl ⟨rfl, rfl, rfl⟩⟩
    | provisional | ephemeral => exact ⟨s, rfl, .inl ⟨rfl, rfl, rfl⟩⟩
  | requestAuthorization =>
    cases error with
    | some error => exact ⟨_, rfl, .inl ⟨rfl, rfl, rfl⟩⟩
    | none =>
      have hdecide : (s.decide granted).inFlight = s.inFlight ∧
          (s.decide granted).center = s.center ∧
          (s.decide granted).scheduled = s.scheduled := by
        rw [App.decide]
        split <;> exact ⟨rfl, rfl, rfl⟩
      obtain ⟨hf, hc, hn⟩ := hdecide
      rw [completed, authorizationRequested]
      by_cases hstatus : (s.decide granted).authorizationStatus = .authorized
      · refine ⟨_, (if_pos (beq_iff_eq.2 hstatus)).trans (scheduleLocalNotification_eq _),
          .inr (.inr ⟨rfl, .inr hstatus, none, ?_, ?_, ?_⟩)⟩
        · dsimp only
          rw [hf, if_pos hstatus]
        · dsimp only
          rw [hc, if_pos hstatus]
        · dsimp only
          rw [hn]
      · exact ⟨_, if_neg (beq_iff_eq.not.2 hstatus), .inl ⟨hf, hc, hn⟩⟩
  | add error =>
    cases error with
    | none => exact ⟨_, rfl, .inl ⟨rfl, rfl, rfl⟩⟩
    | some error => exact ⟨_, rfl, .inl ⟨rfl, rfl, rfl⟩⟩

theorem step_promised (hc : s.center.Each (· = localNotification)) (hen : s.Enabled e) :
    ∃ t, s.step e = some t ∧ t.center.Each (· = localNotification) ∧
      t.promised ≤ s.promised + [e].countP (· = .launch) := by
  cases e with
  | launch =>
    refine ⟨_, rfl, hc, ?_⟩
    change s.scheduled + 1 ≤ s.scheduled + s.inFlight.countP Call.schedules + 1
    omega
  | terminate => exact ⟨_, rfl, hc, Nat.le_add_right _ _⟩
  | lookUp i =>
    refine ⟨_, rfl, hc, Nat.add_le_add_left (Nat.le_of_eq ?_) _⟩
    obtain ⟨hi, hcall⟩ := List.getElem?_eq_some_iff.1 hen
    have hpos : 0 < s.inFlight.countP Call.schedules :=
      List.countP_pos_iff.2 ⟨_, List.getElem_mem hi, by rw [hcall]; rfl⟩
    rw [List.countP_set hi, hcall]
    exact Nat.sub_add_cancel hpos
  | completed i granted error =>
    obtain ⟨call, hcall⟩ : ∃ call, s.inFlight[i]? = some call :=
      ⟨_, List.getElem?_eq_getElem hen.1⟩
    -- the call that is completed counts no longer
    have hcount := (perm_cons_eraseIdx hcall).countP_eq Call.schedules
    rw [List.countP_cons] at hcount
    obtain ⟨t, ht, hcases⟩ :=
      completed_cases { s with inFlight := s.inFlight.eraseIdx i } granted error call
    refine ⟨t, by rw [step, hcall]; exact ht, ?_⟩
    change _ ∧ t.scheduled + t.inFlight.countP Call.schedules ≤
      s.scheduled + s.inFlight.countP Call.schedules
    obtain ⟨hf, hc', hn⟩ | ⟨hs, ht⟩ | ⟨hs, -, refused, hf, hc', hn⟩ := hcases
    · refine ⟨hc' ▸ hc, ?_⟩
      rw [hf, hn]
      dsimp only
      omega
    · rw [hs, if_pos rfl] at hcount
      refine ⟨ht ▸ hc, ?_⟩
      rw [ht, App.call, List.countP_append]
      change s.scheduled + ((s.inFlight.eraseIdx i).countP Call.schedules + 1) ≤ _
      omega
    · rw [hs, if_pos rfl] at hcount
      refine ⟨hc' ▸ hc.add refused rfl, ?_⟩
      rw [hf, hn, List.countP_append]
      change s.scheduled + 1 + ((s.inFlight.eraseIdx i).countP Call.schedules + 0) ≤ _
      omega
  | turn on => exact ⟨_, rfl, hc, Nat.le_refl _⟩
  | fire i =>
    obtain ⟨center, hf⟩ := Option.isSome_iff_exists.1 (NotificationCenter.fire_isSome hen)
    refine ⟨{ s with center := center }, by rw [step, hf]; rfl, hc.fire hf, Nat.le_refl _⟩

/-- Nothing was scheduled, and no settings that allow it are on their way to the app. -/
structure Quiet (s : App) : Prop where
  scheduled : s.scheduled = 0
  settings : .notificationSettings .authorized ∉ s.inFlight

theorem Quiet.step (hs : s.Quiet) (hstatus : s.authorizationStatus ≠ .authorized)
    (h : s.step e = some t) (ht : t.authorizationStatus ≠ .authorized) : t.Quiet := by
  cases e with
  | launch =>
    cases h
    exact ⟨hs.scheduled, by simp⟩
  | terminate =>
    cases h
    exact ⟨hs.scheduled, List.not_mem_nil⟩
  | lookUp i =>
    cases h
    refine ⟨hs.scheduled, fun hmem => ?_⟩
    obtain hold | hnew := List.mem_or_eq_of_mem_set hmem
    · exact hs.settings hold
    · exact hstatus (Call.notificationSettings.inj hnew).symm
  | completed i granted error =>
    obtain ⟨call, hcall, h⟩ := Option.bind_eq_some_iff.1 h
    have hrest : .notificationSettings .authorized ∉ s.inFlight.eraseIdx i :=
      fun hmem => hs.settings (List.mem_of_mem_eraseIdx hmem)
    obtain ⟨t', ht', hcases⟩ :=
      completed_cases { s with inFlight := s.inFlight.eraseIdx i } granted error call
    cases Option.some.inj (ht'.symm.trans h)
    obtain ⟨hf, -, hn⟩ | ⟨-, hcall⟩ | ⟨-, hallowed, -⟩ := hcases
    · exact ⟨hn.trans hs.scheduled, hf ▸ hrest⟩
    · rw [hcall]
      refine ⟨hs.scheduled, fun hmem => ?_⟩
      obtain hold | hnew := List.mem_append.1 hmem
      · exact hrest hold
      · exact absurd (List.mem_singleton.1 hnew) (by decide)
    · obtain hsettings | hauthorized := hallowed
      · exact absurd (hsettings ▸ List.mem_of_getElem? hcall) hs.settings
      · exact absurd hauthorized ht
  | turn on =>
    cases h
    exact ⟨hs.scheduled, hs.settings⟩
  | fire i =>
    obtain ⟨center, -, h⟩ := Option.bind_eq_some_iff.1 h
    cases h
    exact ⟨hs.scheduled, hs.settings⟩

theorem quiet_run (hs : s.Quiet) (h : notifier.Run (fun _ _ => True) s es t)
    (hP : notifier.Throughout (fun _ _ => True) (fun u => u.authorizationStatus ≠ .authorized)
      s es) : t.Quiet := by
  induction h with
  | nil s => exact hs
  | cons hen hb hst hr ih =>
    have htail := hP.tail hen hb hst
    exact ih (hs.step hP.start hst htail.start) htail

theorem promised_run (hc : s.center.Each (· = localNotification))
    (h : notifier.Run (fun _ _ => True) s es t) :
    t.center.Each (· = localNotification) ∧
      t.promised ≤ s.promised + es.countP (· = .launch) := by
  have hcharges := h.charges (q := fun _ => false) (fun s e t hc hen _ hst => by
    obtain ⟨t', ht, hc', hle⟩ := step_promised hc hen
    cases Option.some.inj (ht.symm.trans hst)
    exact ⟨hc', hle⟩) hc
  rw [List.countP_false] at hcharges
  exact hcharges

theorem scheduled_launch (hc : s.center.Each (· = localNotification))
    (h : notifier.Run (fun _ _ => True) s (.launch :: es) t) (hes : .launch ∉ es) :
    t.scheduled ≤ s.scheduled + 1 := by
  obtain ⟨-, -, u, hs, hr⟩ := Machine.Run.cons_iff.1 h
  cases hs
  have hpromised := (promised_run (s := { s with
    running := true, inFlight := [.getNotificationSettings] }) hc hr).2
  have hnone : es.countP (· = .launch) = 0 := by
    apply List.countP_eq_zero.2
    intro e he hlaunch
    exact hes (of_decide_eq_true hlaunch ▸ he)
  rw [hnone] at hpromised
  exact (Nat.le_add_right _ _).trans hpromised

theorem launch_schedules (hc : s.center.Each (· = localNotification)) (hrunning : s.running = false)
    (hstatus : s.authorizationStatus = .authorized) (granted : Bool) (error : Option String) :
    ∃ t, notifier.Run (fun _ _ => True) s [.launch, .lookUp 0, .completed 0 granted error] t ∧
      t.center.pending = [localNotification] ∧ t.scheduled = s.scheduled + 1 := by
  obtain ⟨center, authorizationStatus, running, inFlight, printed, scheduled⟩ := s
  cases hrunning
  cases hstatus
  have hcompleted : notifier.enabled ⟨center, .authorized, true,
      [.notificationSettings .authorized], printed, scheduled⟩ (.completed 0 granted error) :=
    ⟨Nat.zero_lt_one, nofun⟩
  refine ⟨_, .cons rfl trivial rfl (.cons rfl trivial rfl
    (.cons hcompleted trivial rfl (.nil _))), ?_, rfl⟩
  change putLast NotificationRequest.identifier localNotification center.pending = _
  rw [putLast, List.filter_eq_nil_iff.2, List.nil_append]
  intro r hr
  rw [hc.pending r hr]
  decide

end App

/-- In every run from the installation, however its callbacks are interleaved: the notification is
scheduled once at most between two launches, not before the first one, and never unless the user has
authorized the app; at most one request is pending and one notification on display; a launch of an
authorized app does schedule it; and nothing traps. -/
theorem scheduled_once_a_launch (h : notifier.Run (fun _ _ => True) .installed es s) :
    s.scheduled ≤ es.countP (· = .launch) ∧
    (∀ es' t, notifier.Run (fun _ _ => True) s (.launch :: es') t → .launch ∉ es' →
      t.scheduled ≤ s.scheduled + 1) ∧
    (s.scheduled ≠ 0 → ∃ es' u, es' <+: es ∧ notifier.Run (fun _ _ => True) .installed es' u ∧
      u.authorizationStatus = .authorized) ∧
    s.center.pending.length ≤ 1 ∧ s.center.delivered.length ≤ 1 ∧
    (s.running = false → s.authorizationStatus = .authorized → ∀ granted error,
      ∃ t, notifier.Run (fun _ _ => True) s [.launch, .lookUp 0, .completed 0 granted error] t ∧
        t.center.pending = [localNotification] ∧ t.scheduled = s.scheduled + 1) ∧
    ∀ e, s.Enabled e → (s.step e).isSome := by
  obtain ⟨hc, hpromised⟩ := App.promised_run .empty h
  have hidentifier : ∀ r, r = localNotification →
      r.identifier ∈ ["cocoacasts_local_notification"] := by
    rintro r rfl
    exact List.mem_singleton_self _
  refine ⟨?_, fun es' t => App.scheduled_launch hc, fun hne => ?_, ?_, ?_,
    App.launch_schedules hc, fun e hen => ?_⟩
  · rw [show App.promised .installed = 0 from rfl, Nat.zero_add] at hpromised
    exact (Nat.le_add_right _ _).trans hpromised
  · by_contra hnever
    refine hne (App.quiet_run ⟨rfl, List.not_mem_nil⟩ h fun es' u hp hr hu => ?_).scheduled
    exact hnever ⟨es', u, hp, hr, hu⟩
  · exact length_requests_le _ s.center.nodup_pending fun r hr => hidentifier r (hc.pending r hr)
  · exact length_requests_le _ s.center.nodup_delivered
      fun r hr => hidentifier r (hc.delivered r hr)
  · obtain ⟨t, ht, -⟩ := App.step_promised hc hen
    exact Option.isSome_of_eq_some ht

/-- A launch is terminated at the prompt, and the notifications are turned off in the next one. -/
def interrupted : List App.Event := [
  .launch, .lookUp 0, .completed 0 false none, .terminate, .launch, .lookUp 0,
  .completed 0 false none, .completed 0 true none, .completed 0 false none, .fire 0, .terminate,
  .launch, .lookUp 0, .turn false, .completed 0 false none, .completed 0 false none]

theorem scheduled_once_a_launch_interrupted : ∃ s,
    notifier.Run (fun _ _ => True) .installed interrupted s ∧
    s.printed = [.created, .unableToAdd "notificationsNotAllowed"] ∧ s.scheduled = 2 ∧
    s.center.delivered = [localNotification] ∧
    ∀ es t, notifier.Run (fun _ _ => True) s (.launch :: es) t → .launch ∉ es →
      t.scheduled ≤ 3 := by
  obtain ⟨s, hr, hs⟩ := Machine.run_of_exec notifier (fun _ _ => True) .installed interrupted
    (fun s => decide (s.printed = [.created, .unableToAdd "notificationsNotAllowed"] ∧
      s.scheduled = 2 ∧ s.center.delivered = [localNotification])) (by decide +kernel)
  obtain ⟨hprinted, hscheduled, hdelivered⟩ := of_decide_eq_true hs
  obtain ⟨-, honce, -⟩ := scheduled_once_a_launch hr
  rw [hscheduled] at honce
  exact ⟨s, hr, hprinted, hscheduled, hdelivered, honce⟩

end TrainingDemos.LocalNotificationDemo
