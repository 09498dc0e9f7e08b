import TrainingDemos.FirebasePractise.SessionAgreement
import TrainingDemos.Refinements

namespace TrainingDemos.FirebasePractise
set_option autoImplicit true

structure Authentication where
  idToken : Option String
  accessToken : String

structure GoogleAnswer where
  error : Option String
  authentication : Option Authentication

structure CredentialAnswer where
  error : Option String
  uid : String
  displayName : Option String
  email : Option String

/-- `signUp` is that of `googlebtnclick`, which also writes a profile. -/
inductive GoogleRequest where
  | gidSignIn (signUp : Bool)
  | credentialSignIn (signUp : Bool)
  | setData (write : Write)

def GoogleRequest.isGidSignIn : GoogleRequest → Bool
  | .gidSignIn _ => true
  | _ => false

def GoogleRequest.isCredentialSignIn : GoogleRequest → Bool
  | .credentialSignIn _ => true
  | _ => false

def GoogleRequest.isSetData : GoogleRequest → Bool
  | .setData _ => true
  | _ => false

/-- The last component lists the ids that Google sign-ins wrote profiles under. -/
structure GoogleApp where
  session : Session
  google : List GoogleRequest
  profiles : List String

namespace GoogleApp

def installed : GoogleApp := ⟨.installed, [], []⟩

def start (request : GoogleRequest) (s : GoogleApp) : GoogleApp :=
  { s with google := s.google ++ [request] }

/-- The process ends. -/
def trap (s : GoogleApp) : GoogleApp := { s with session := s.session.trap, google := [] }

/-- Both buttons do nothing unless Firebase is configured with a client id. -/
def click (signUp : Bool) (clientID : Option String) (s : GoogleApp) : GoogleApp :=
  match clientID with
  | none => s
  | some _ => s.start (.gidSignIn signUp)

def googlebtnclick : Option String → GoogleApp → GoogleApp := click true

def loginwithgooglebtnclick : Option String → GoogleApp → GoogleApp := click false

/-- Only `googlebtnclick` checks that there is an id token, the other button unwraps it. -/
def googleSignedIn (signUp : Bool) (answer : GoogleAnswer) (s : GoogleApp) : GoogleApp :=
  match answer.error, answer.authentication with
  | some _, _ => s
  | none, none => s
  | none, some authentication =>
    match authentication.idToken, signUp with
    | some _, signUp => s.start (.credentialSignIn signUp)
    | none, true => s
    | none, false => s.trap

def profile (key : String) (answer : CredentialAnswer) : Write :=
  .setData key [("name", .ofOption .string answer.displayName),
    ("email", .ofOption .string answer.email)]

/-- It reads `db` of the SignupVC, which is held unowned: this traps if the screen is gone. -/
def credentialSignedIn (signUp signupVC : Bool) (key : String) (answer : CredentialAnswer)
    (s : GoogleApp) : GoogleApp :=
  match answer.error with
  | some _ => s
  | none =>
    let s := { s with session := { s.session with currentUser := some answer.uid } }
    if signUp = false then s
    else if signupVC = false then s.trap
    else { s with profiles := s.profiles ++ [key] }.start (.setData (profile key answer))

def profileWritten (error : Option String) (write : Write) (s : GoogleApp) : GoogleApp :=
  match error with
  | some _ => s
  | none => { s with session := { s.session with users := s.session.users.perform write } }

inductive Event where
  | session (e : Session.Event)
  | googlebtnclick (clientID : Option String)
  | loginwithgooglebtnclick (clientID : Option String)
  | googleSignedIn (i : Nat) (answer : GoogleAnswer)
  /-- `signupVC` says whether the SignupVC still exists, `key` is the id that Firestore makes. -/
  | credentialSignedIn (i : Nat) (signupVC : Bool) (key : String) (answer : CredentialAnswer)
  | profileWritten (i : Nat) (error : Option String)

def Event.session? : Event → Option Session.Event
  | .session e => some e
  | _ => none

/-- Firestore makes ids that no document has. -/
def Enabled (s : GoogleApp) : Event → Prop
  | .session e => s.session.Enabled e
  | .googlebtnclick _ | .loginwithgooglebtnclick _ => s.session.root = .loginNavi
  | .googleSignedIn i _ => s.google[i]?.any GoogleRequest.isGidSignIn = true
  | .credentialSignedIn i _ key _ => s.google[i]?.any GoogleRequest.isCredentialSignIn = true ∧
      key ∉ s.profiles ∧ key ∉ s.session.users.ids
  | .profileWritten i _ => s.google[i]?.any GoogleRequest.isSetData = true

instance (s : GoogleApp) : (e : Event) → Decidable (s.Enabled e)
  | .session e => inferInstanceAs (Decidable (s.session.Enabled e))
  | .googlebtnclick _ | .loginwithgooglebtnclick _ | .googleSignedIn _ _ | .profileWritten _ _ =>
    inferInstanceAs (Decidable (_ = _))
  | .credentialSignedIn _ _ _ _ => inferInstanceAs (Decidable (_ ∧ _))

def take (i : Nat) (s : GoogleApp) : Option (GoogleRequest × GoogleApp) := do
  let request ← s.google[i]?
  some (request, { s with google := s.google.eraseIdx i })

def launches : Session.Event → Bool
  | .launch => true
  | _ => false

/-- With the process end the Google sign-ins that it waits for. -/
def sessionStep (s : GoogleApp) (e : Session.Event) : Option GoogleApp := do
  let session ← s.session.step e
  let google := if session.root = .notRunning ∨ launches e = true then [] else s.google
  some { s with session := session, google := google }

def step (s : GoogleApp) : Event → Option GoogleApp
  | .session e => s.sessionStep e
  | .googlebtnclick clientID => some (s.googlebtnclick clientID)
  | .loginwithgooglebtnclick clientID => some (s.loginwithgooglebtnclick clientID)
  | .googleSignedIn i answer =>
    match s.take i with
    | some (.gidSignIn signUp, s) => some (s.googleSignedIn signUp answer)
    | _ => none
  | .credentialSignedIn i signupVC key answer =>
    match s.take i with
    | some (.credentialSignIn signUp, s) =>
      some (s.credentialSignedIn signUp signupVC key answer)
    | _ => none
  | .profileWritten i error =>
    match s.take i with
    | some (.setData write, s) => some (s.profileWritten error write)
    | _ => none

def machine : Machine GoogleApp Event where
  enabled := Enabled
  step := step

instance (s : GoogleApp) (e : Event) : Decidable (machine.enabled s e) :=
  inferInstanceAs (Decidable (s.Enabled e))

end GoogleApp

namespace Session
variable {s t : Session}

/-- The session with another user of Firebase and other profiles. -/
def overlay (currentUser : Option String) (users : Collection) (s : Session) : Session :=
  { s with currentUser := currentUser, users := users }

/-- A step does the same over another user of Firebase and other profiles. -/
def StepsOver (s : Session) (users : Collection) (t t' : Session) : Prop :=
  ∃ currentUser users', t' = t.overlay currentUser users' ∧
    ∀ key, users.doc key = s.users.doc key → users'.doc key = t.users.doc key

theorem loginbtnclick_over (txtEmail txtPassword : String) (s : Session) (u : Option String)
    (c : Collection) : LoginVC.loginbtnclick txtEmail txtPassword (s.overlay u c) =
      (LoginVC.loginbtnclick txtEmail txtPassword s).overlay u c := by
  simp only [LoginVC.loginbtnclick, validationTextfield]
  split
  · split <;> rfl
  · rfl

theorem clickonsignup_over (txtName txtEmail txtPasswoprd : String) (s : Session)
    (u : Option String) (c : Collection) :
    SignupVC.clickonsignup txtName txtEmail txtPasswoprd (s.overlay u c) =
      (SignupVC.clickonsignup txtName txtEmail txtPasswoprd s).overlay u c := by
  simp only [SignupVC.clickonsignup, validationTextfield]
  split
  · split
    · split <;> rfl
    · rfl
  · rfl

theorem StepsOver.of_users (u : Option String) (h : t' = t.overlay u c) (hu : t.users = s.users) :
    s.StepsOver c t t' := by
  refine ⟨u, c, h, ?_⟩
  rw [hu]
  exact fun key hkey => hkey

theorem signedIn_over (loginVC : Nat) (answer : Answer) (s : Session)
    (u : Option String) (c : Collection) :
    s.StepsOver c (LoginVC.signedIn loginVC answer s)
      (LoginVC.signedIn loginVC answer (s.overlay u c)) := by
  have halive : (s.overlay u c).Alive loginVC = s.Alive loginVC := rfl
  simp only [LoginVC.signedIn, halive]
  split
  · split
    · exact .of_users u rfl rfl
    · exact .of_users u rfl rfl
  · split
    · exact .of_users (some answer.uid) rfl rfl
    · exact .of_users (some answer.uid) rfl rfl

theorem userCreated_over (answer : Answer) (s : Session) (u : Option String)
    (c : Collection) :
    s.StepsOver c (SignupVC.userCreated answer s)
      (SignupVC.userCreated answer (s.overlay u c)) := by
  simp only [SignupVC.userCreated]
  split
  · exact .of_users u rfl rfl
  · exact .of_users (some answer.uid) rfl rfl

theorem profileWritten_over (error : Option String) (write : Write) (answer : Answer)
    (s : Session) (u : Option String) (c : Collection) :
    SignupVC.profileWritten error write answer (s.overlay u c) =
      (SignupVC.profileWritten error write answer s).overlay u
        (if answer.error = none then c.perform write else c) := by
  simp only [SignupVC.profileWritten]
  split <;> rfl

theorem users_profileWritten (error : Option String) (write : Write) (answer : Answer)
    (s : Session) : (SignupVC.profileWritten error write answer s).users =
      if answer.error = none then s.users.perform write else s.users := by
  simp only [SignupVC.profileWritten]
  split <;> rfl

theorem completed_over (request : Request) (answer : Answer) (s : Session)
    (u : Option String) (c : Collection) :
    s.StepsOver c (request.completed answer s)
      (request.completed answer (s.overlay u c)) := by
  cases request with
  | signIn loginVC => exact signedIn_over loginVC answer s u c
  | createUser => exact userCreated_over answer s u c
  | setData error write =>
    refine ⟨u, _, profileWritten_over error write answer s u c, ?_⟩
    intro key hkey
    change _ = (SignupVC.profileWritten error write answer s).users.doc key
    rw [users_profileWritten]
    split
    · exact Collection.doc_perform_congr hkey write
    · exact hkey

theorem step_over (h : (s.overlay u c).step e = some t') :
    ∃ t, s.step e = some t ∧ s.StepsOver c t t' := by
  cases e with
  | launch =>
    cases h
    exact ⟨_, rfl, .of_users u rfl rfl⟩
  | loginbtnclick txtEmail txtPassword =>
    cases h
    refine ⟨_, rfl, .of_users u (loginbtnclick_over _ _ s u c) ?_⟩
    exact loginbtnclick_cases (P := fun t => t.users = s.users) (fun _ => rfl) rfl _ _
  | clickonsignup txtName txtEmail txtPasswoprd =>
    cases h
    refine ⟨_, rfl, .of_users u (clickonsignup_over _ _ _ s u c) ?_⟩
    exact clickonsignup_cases (P := fun t => t.users = s.users) (fun _ => rfl) rfl _ _ _
  | completed i answer =>
    obtain ⟨request, hi, ht⟩ := Option.map_eq_some_iff.1 h
    cases ht
    have hi : s.inFlight[i]? = some request := hi
    refine ⟨_, by rw [step, hi]; rfl, ?_⟩
    exact completed_over request answer { s with inFlight := s.inFlight.eraseIdx i } u c
  | click_onLogoutBtn error =>
    cases h
    exact ⟨_, rfl, .of_users (if error = none then none else u) rfl rfl⟩

theorem enabled_over (h : (s.overlay u c).Enabled e) : s.Enabled e := by
  cases e <;> exact h

theorem enabled_trap (h : (s.trap.overlay u c).Enabled e) : e = .launch := by
  cases e with
  | launch => rfl
  | completed i answer => exact absurd h (Nat.not_lt_zero i)
  | _ => cases h

end Session

namespace GoogleApp
variable {g t : GoogleApp} {s : Session}

/-- The profiles differ only under the ids that Google sign-ins write to. -/
structure Follows (g : GoogleApp) (s : Session) : Prop where
  session : g.session = s.overlay g.session.currentUser g.session.users ∨
    g.session = s.trap.overlay g.session.currentUser g.session.users
  users : ∀ key ∉ g.profiles, g.session.users.doc key = s.users.doc key
  writes : ∀ write, .setData write ∈ g.google → ∃ key ∈ g.profiles, ∃ answer,
    write = profile key answer

theorem follows_installed : installed.Follows .installed where
  session := .inl rfl
  users _ _ := rfl
  writes := nofun

theorem Follows.overlay {requests : List GoogleRequest} {ids : List String} (h : g.Follows s)
    (u : Option String) (hids : g.profiles ⊆ ids)
    (hc : ∀ key ∉ ids, c.doc key = g.session.users.doc key)
    (hw : ∀ write, .setData write ∈ requests → ∃ key ∈ ids, ∃ answer, write = profile key answer) :
    Follows ⟨g.session.overlay u c, requests, ids⟩ s where
  session := by
    obtain hsession | hsession := h.session
    · rw [hsession]
      exact .inl rfl
    · rw [hsession]
      exact .inr rfl
  users key hkey := (hc key hkey).trans (h.users key fun hmem => hkey (hids hmem))
  writes := hw

theorem Follows.trap (h : g.Follows s) : g.trap.Follows s where
  session := by
    apply Or.inr
    change g.session.trap = _
    obtain hsession | hsession := h.session
    · rw [hsession]
      rfl
    · rw [hsession]
      rfl
  users := h.users
  writes := nofun

theorem Follows.start (h : g.Follows s)
    (hw : ∀ write, request = .setData write → ∃ key ∈ g.profiles, ∃ answer,
      write = profile key answer) : (g.start request).Follows s where
  session := h.session
  users := h.users
  writes write hmem := by
    obtain hold | hnew := List.mem_append.1 hmem
    · exact h.writes write hold
    · exact hw write (List.mem_singleton.1 hnew).symm

theorem Follows.take (h : g.Follows s) (ht : g.take i = some (request, t)) :
    request ∈ g.google ∧ t.profiles = g.profiles ∧ t.Follows s := by
  obtain ⟨request', hi, ht⟩ := Option.bind_eq_some_iff.1 ht
  cases ht
  refine ⟨List.mem_of_getElem? hi, rfl, h.session, h.users, fun write hmem => ?_⟩
  exact h.writes write (List.mem_of_mem_eraseIdx hmem)

theorem Follows.click (h : g.Follows s) (signUp : Bool) (clientID : Option String) :
    (g.click signUp clientID).Follows s := by
  cases clientID with
  | none => exact h
  | some clientID => exact h.start nofun

theorem Follows.googleSignedIn (h : g.Follows s) (signUp : Bool) (answer : GoogleAnswer) :
    (g.googleSignedIn signUp answer).Follows s := by
  rw [GoogleApp.googleSignedIn]
  split
  · exact h
  · exact h
  · split
    · exact h.start nofun
    · exact h
    · exact h.trap

theorem Follows.credentialSignedIn (h : g.Follows s) (signUp signupVC : Bool) (key : String)
    (answer : CredentialAnswer) :
    (g.credentialSignedIn signUp signupVC key answer).Follows s := by
  rw [GoogleApp.credentialSignedIn]
  split
  · exact h
  · have hu : Follows
        ⟨g.session.overlay (some answer.uid) g.session.users, g.google, g.profiles⟩ s :=
      h.overlay _ (List.Subset.refl _) (fun _ _ => rfl) h.writes
    dsimp only
    split
    · exact hu
    · split
      · exact hu.trap
      · have hp : Follows ⟨g.session.overlay (some answer.uid) g.session.users, g.google,
            g.profiles ++ [key]⟩ s := by
          apply h.overlay _ (List.subset_append_left _ _) (fun _ _ => rfl)
          intro write hmem
          obtain ⟨key', hkey', hw⟩ := h.writes write hmem
          exact ⟨key', List.mem_append_left _ hkey', hw⟩
        apply hp.start
        intro write hw
        exact ⟨key, List.mem_append_right _ List.mem_cons_self, answer,
          (GoogleRequest.setData.inj hw).symm⟩

theorem Follows.profileWritten (h : g.Follows s) (hkey : key ∈ g.profiles)
    (error : Option String) (answer : CredentialAnswer) :
    (g.profileWritten error (profile key answer)).Follows s := by
  cases error with
  | some error => exact h
  | none =>
    refine h.overlay _ (List.Subset.refl _) (fun i hi => ?_) h.writes
    exact Collection.doc_setData_of_ne _ _ fun heq => hi (heq ▸ hkey)

theorem Follows.google_step (h : g.Follows s) (hst : g.step e = some t) (he : e.session? = none) :
    t.Follows s := by
  cases e with
  | session e => cases he
  | googlebtnclick clientID =>
    cases hst
    exact h.click true clientID
  | loginwithgooglebtnclick clientID =>
    cases hst
    exact h.click false clientID
  | googleSignedIn i answer =>
    rw [step] at hst
    split at hst
    · rename_i signUp u ht
      cases hst
      exact (h.take ht).2.2.googleSignedIn signUp answer
    · cases hst
  | credentialSignedIn i signupVC key answer =>
    rw [step] at hst
    split at hst
    · rename_i signUp u ht
      cases hst
      exact (h.take ht).2.2.credentialSignedIn signUp signupVC key answer
    · cases hst
  | profileWritten i error =>
    rw [step] at hst
    split at hst
    · rename_i write u ht
      cases hst
      obtain ⟨hmem, hids, hu⟩ := h.take ht
      obtain ⟨key, hkey, answer, rfl⟩ := h.writes write hmem
      exact hu.profileWritten (hids ▸ hkey) error answer
    · cases hst

theorem Follows.session_step (h : g.Follows s) (hen : g.session.Enabled e)
    (hst : g.sessionStep e = some t) :
    s.Enabled e ∧ ∃ s', s.step e = some s' ∧ t.Follows s' := by
  obtain ⟨session, hs, ht⟩ := Option.bind_eq_some_iff.1 hst
  cases ht
  have hw : ∀ write, .setData write ∈
      (if session.root = .notRunning ∨ launches e = true then [] else g.google) →
      ∃ key ∈ g.profiles, ∃ answer, write = profile key answer := by
    intro write hmem
    split at hmem
    · cases hmem
    · exact h.writes write hmem
  obtain hsession | hsession := h.session
  · rw [hsession] at hen hs
    obtain ⟨s', hs', u, c, hover, hc⟩ := Session.step_over hs
    subst hover
    exact ⟨Session.enabled_over hen, s', hs', .inl rfl,
      fun key hkey => hc key (h.users key hkey), hw⟩
  · rw [hsession] at hen hs
    cases Session.enabled_trap hen
    cases hs
    exact ⟨trivial, s.launch, rfl, .inl rfl, h.users, hw⟩

theorem Follows.step (h : g.Follows s) (hen : g.Enabled e) (hst : g.step e = some t)
    (he : e.session? = some a) : s.Enabled a ∧ True ∧ ∃ s', s.step a = some s' ∧ t.Follows s' := by
  cases e with
  | session e =>
    cases he
    obtain ⟨hen', hstep⟩ := h.session_step hen hst
    exact ⟨hen', trivial, hstep⟩
  | _ => cases he

end GoogleApp

/-- Google sign-ins end the process, or change nothing but Firebase's user and their profiles. -/
theorem google_signs_nobody_in
    (h : GoogleApp.machine.Run (fun _ _ => True) .installed es g) :
    ∃ s, Session.machine.Run (fun _ _ => True) .installed
        (es.filterMap GoogleApp.Event.session?) s ∧
      (g.session = s.overlay g.session.currentUser g.session.users ∨
        g.session = s.trap.overlay g.session.currentUser g.session.users) ∧
      ∀ key ∉ g.profiles, g.session.users.doc key = s.users.doc key := by
  obtain ⟨s, hrun, hs⟩ := h.projects (N := Session.machine) GoogleApp.Event.session?
    (fun _ _ _ _ hg _ hst he => hg.google_step hst he)
    (fun _ _ _ _ _ hg hen hst he => hg.step hen hst he) GoogleApp.follows_installed
  exact ⟨s, hrun, hs.session, hs.users⟩

/-- A sign-up with Google, and a sign-in without an id token, which ends the process. -/
def signedUpWithGoogle : List GoogleApp.Event := [
  .session .launch, .googlebtnclick (some "client"),
  .googleSignedIn 0 ⟨none, some ⟨some "token", "access"⟩⟩,
  .credentialSignedIn 0 true "k" ⟨none, "g", some "Asha", none⟩, .profileWritten 0 none,
  .loginwithgooglebtnclick (some "client"), .googleSignedIn 0 ⟨none, some ⟨none, "access"⟩⟩,
  .session .launch]

theorem google_signs_nobody_in_signed_up : ∃ g,
    GoogleApp.machine.Run (fun _ _ => True) .installed signedUpWithGoogle g ∧
    g.session.root = .loginNavi ∧ g.session.currentUser = some "g" ∧ g.session.userID = "1234" ∧
    g.session.users.ids = ["k"] ∧
    ∃ s, Session.machine.Run (fun _ _ => True) .installed
        (signedUpWithGoogle.filterMap GoogleApp.Event.session?) s ∧
      (g.session = s.overlay g.session.currentUser g.session.users ∨
        g.session = s.trap.overlay g.session.currentUser g.session.users) ∧
      ∀ key ∉ g.profiles, g.session.users.doc key = s.users.doc key := by
  obtain ⟨g, hr, hg⟩ := Machine.run_of_exec GoogleApp.machine (fun _ _ => True) .installed
    signedUpWithGoogle (fun g => decide (g.session.root = .loginNavi ∧
      g.session.currentUser = some "g" ∧ g.session.userID = "1234" ∧ g.session.users.ids = ["k"]))
    (by decide +kernel)
  obtain ⟨hroot, huser, hid, hids⟩ := of_decide_eq_true hg
  exact ⟨g, hr, hroot, huser, hid, hids, google_signs_nobody_in hr⟩

end TrainingDemos.FirebasePractise
