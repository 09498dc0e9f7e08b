import Mathlib.Data.List.Basic
import TrainingDemos.FirebasePractise.Session

namespace TrainingDemos.FirebasePractise
set_option autoImplicit true

namespace Session

/-- On the home screen all four places hold one user. -/
def HomeAgrees (s : Session) : Prop :=
  s.root = .homeNavi →
    s.login.isSome ∧ s.storedID = some s.userID ∧ s.currentUser = some s.userID

/-- From a logout until a sign-in is started no user is kept. -/
def LogoutClears (s : Session) : Prop :=
  s.loggedOut = true → s.login = none ∧ s.storedID = none ∧ s.currentUser = none

def Agrees (s : Session) : Prop := s.HomeAgrees ∧ s.LogoutClears

end Session

/-- It was started since the last logout, and concerns the user who is current when it ends. -/
def Request.Undisturbed (answer : Answer) (s : Session) : Request → Prop
  | .signIn _ => answer.error = none → s.loggedOut = false
  | .createUser => answer.error = none →
      s.loggedOut = false ∧ (s.root = .homeNavi → answer.uid = s.userID)
  | .setData _ _ => s.loggedOut = false ∧ s.currentUser = some s.userID

instance (answer : Answer) (s : Session) :
    (request : Request) → Decidable (request.Undisturbed answer s)
  | .signIn _ => inferInstanceAs (Decidable (_ → _))
  | .createUser => inferInstanceAs (Decidable (_ → _ ∧ (_ → _)))
  | .setData _ _ => inferInstanceAs (Decidable (_ ∧ _))

namespace Session

/-- No request that ends is disturbed, and logging out of Firebase succeeds. -/
def Undisturbed (s : Session) : Event → Prop
  | .completed i answer => ∀ request ∈ s.inFlight[i]?, request.Undisturbed answer s
  | .click_onLogoutBtn error => error = none
  | _ => True

instance (s : Session) : (e : Event) → Decidable (s.Undisturbed e)
  | .completed _ _ => inferInstanceAs (Decidable (∀ _ ∈ _, _))
  | .click_onLogoutBtn _ => inferInstanceAs (Decidable (_ = _))
  | .launch | .loginbtnclick _ _ | .clickonsignup _ _ _ => inferInstanceAs (Decidable True)

structure Kept (s : Session) : Prop where
  persisted : s.login.isSome → ∃ uid, s.storedID = some uid ∧ s.currentUser = some uid
  loginNavi : s.root = .loginNavi → s.login = none
  idle : s.root = .notRunning → s.inFlight = []
  captured : ∀ error write, .setData error write ∈ s.inFlight → error = none

theorem kept_installed : installed.Kept where
  persisted := nofun
  loginNavi := nofun
  idle _ := rfl
  captured := nofun

theorem agrees_installed : installed.Agrees := ⟨nofun, nofun⟩

variable {s : Session}

theorem Kept.showAlertMsg (h : s.Kept) (msg : String) : (s.showAlertMsg msg).Kept :=
  ⟨h.persisted, h.loginNavi, h.idle, h.captured⟩

theorem Kept.trap (h : s.Kept) : s.trap.Kept where
  persisted := h.persisted
  loginNavi := nofun
  idle _ := rfl
  captured := nofun

theorem Kept.start (h : s.Kept) (hr : s.root = .loginNavi)
    (hn : ∀ error write, request = .setData error write → error = none) :
    (s.start request).Kept where
  persisted := h.persisted
  loginNavi := h.loginNavi
  idle hi := by
    have hi : s.root = .notRunning := hi
    rw [hr] at hi
    cases hi
  captured error write hm := by
    rcases List.mem_append.1 hm with hm | hm
    · exact h.captured error write hm
    · exact hn error write (List.mem_singleton.1 hm).symm

theorem Kept.without (h : s.Kept) (i : Nat) :
    Kept { s with inFlight := s.inFlight.eraseIdx i } where
  persisted := h.persisted
  loginNavi := h.loginNavi
  idle hi := by
    show s.inFlight.eraseIdx i = []
    rw [h.idle hi]
    rfl
  captured error write hm := h.captured error write (List.mem_of_mem_eraseIdx hm)

theorem validationTextfield_cases {next : Session → Session} {P : Session → Prop}
    (ha : ∀ msg, P (s.showAlertMsg msg)) (hn : P (next s)) (text msg : String) :
    P (s.validationTextfield text msg next) := by
  rw [validationTextfield]
  split
  · exact hn
  · exact ha msg

theorem loginbtnclick_cases {P : Session → Prop} (ha : ∀ msg, P (s.showAlertMsg msg))
    (hs : P (LoginVC.FirebaseLogin s)) (txtEmail txtPassword : String) :
    P (LoginVC.loginbtnclick txtEmail txtPassword s) := by
  apply validationTextfield_cases ha
  exact validationTextfield_cases ha hs _ _

theorem clickonsignup_cases {P : Session → Prop} (ha : ∀ msg, P (s.showAlertMsg msg))
    (hs : P (SignupVC.FirebaseSignUP s)) (txtName txtEmail txtPasswoprd : String) :
    P (SignupVC.clickonsignup txtName txtEmail txtPasswoprd s) := by
  apply validationTextfield_cases ha
  apply validationTextfield_cases ha
  exact validationTextfield_cases ha hs _ _

theorem LogoutClears.of_false (h : s.loggedOut = false) : s.LogoutClears := by
  intro hout
  rw [h] at hout
  cases hout

theorem LogoutClears.not_out (h : s.LogoutClears) (hu : s.currentUser = some uid) :
    s.loggedOut = false := by
  apply Bool.eq_false_iff.2
  intro hout
  rw [(h hout).2.2] at hu
  cases hu

theorem HomeAgrees.signedIn (h : s.HomeAgrees) (loginVC : Nat) (answer : Answer) :
    (LoginVC.signedIn loginVC answer s).HomeAgrees := by
  rw [LoginVC.signedIn]
  cases answer.error with
  | some error =>
    dsimp only
    split
    · exact h
    · exact nofun
  | none =>
    dsimp only
    split
    · exact fun _ => ⟨rfl, rfl, rfl⟩
    · exact nofun

theorem Kept.signedIn (h : s.Kept) (loginVC : Nat) (answer : Answer) :
    (LoginVC.signedIn loginVC answer s).Kept := by
  rw [LoginVC.signedIn]
  cases answer.error with
  | some error =>
    dsimp only
    split
    · exact h.showAlertMsg error
    · exact h.trap
  | none =>
    dsimp only
    split
    · exact ⟨fun _ => ⟨_, rfl, rfl⟩, nofun, nofun, h.captured⟩
    · exact ⟨fun _ => ⟨_, rfl, rfl⟩, nofun, fun _ => rfl, nofun⟩

theorem logoutClears_signedIn (h : s.LogoutClears) (loginVC : Nat) (answer : Answer) :
    (LoginVC.signedIn loginVC answer s).LogoutClears ↔
      (answer.error = none → s.loggedOut = false) := by
  rw [LoginVC.signedIn]
  cases he : answer.error with
  | some error =>
    refine ⟨fun _ => nofun, fun _ => ?_⟩
    dsimp only
    split
    · exact h
    · exact h
  | none =>
    dsimp only
    constructor
    · intro ht _
      split at ht
      · have hout := ht.not_out rfl
        exact hout
      · have hout := ht.not_out rfl
        exact hout
    · intro hout
      split
      · exact .of_false (hout rfl)
      · exact .of_false (hout rfl)

theorem agrees_signedIn (ha : s.Agrees) (loginVC : Nat) (answer : Answer) :
    (LoginVC.signedIn loginVC answer s).Agrees ↔
      (answer.error = none → s.loggedOut = false) := by
  rw [Agrees, logoutClears_signedIn ha.2]
  exact and_iff_right (ha.1.signedIn loginVC answer)

theorem homeAgrees_userCreated (ha : s.HomeAgrees) (answer : Answer) :
    (SignupVC.userCreated answer s).HomeAgrees ↔
      (answer.error = none → s.root = .homeNavi → answer.uid = s.userID) := by
  rw [SignupVC.userCreated]
  cases he : answer.error with
  | some error => exact ⟨fun _ => nofun, fun _ => ha⟩
  | none =>
    dsimp only
    constructor
    · intro ht _ hroot
      have hnew : s.storedID = some answer.uid := (ht hroot).2.1
      rw [(ha hroot).2.1] at hnew
      exact (Option.some.inj hnew).symm
    · intro huid hroot
      have hroot : s.root = .homeNavi := hroot
      obtain ⟨hlogin, hstored, -⟩ := ha hroot
      rw [← huid rfl hroot] at hstored
      exact ⟨hlogin, hstored, rfl⟩

theorem agrees_userCreated (ha : s.Agrees) (answer : Answer) :
    (SignupVC.userCreated answer s).Agrees ↔ (answer.error = none →
      s.loggedOut = false ∧ (s.root = .homeNavi → answer.uid = s.userID)) := by
  rw [Agrees, homeAgrees_userCreated ha.1]
  constructor
  · intro ht he
    obtain ⟨huid, hclear⟩ := ht
    rw [SignupVC.userCreated, he] at hclear
    have hout := hclear.not_out rfl
    exact ⟨hout, huid he⟩
  · intro hc
    refine ⟨fun he => (hc he).2, ?_⟩
    rw [SignupVC.userCreated]
    cases he : answer.error with
    | some error => exact ha.2
    | none => exact .of_false (hc he).1

theorem Kept.userCreated (h : s.Kept) (ha : s.HomeAgrees) (hrun : s.root ≠ .notRunning)
    (huid : answer.error = none → s.root = .homeNavi → answer.uid = s.userID) :
    (SignupVC.userCreated answer s).Kept := by
  rw [SignupVC.userCreated]
  cases he : answer.error with
  | some error => exact h
  | none =>
    dsimp only
    refine ⟨?_, h.loginNavi, ?_, ?_⟩
    · intro hlogin
      have hlogin : s.login.isSome := hlogin
      cases hroot : s.root with
      | notRunning => exact absurd hroot hrun
      | loginNavi =>
        rw [h.loginNavi hroot] at hlogin
        cases hlogin
      | homeNavi =>
        have hstored := (ha hroot).2.1
        rw [← huid he hroot] at hstored
        exact ⟨_, hstored, rfl⟩
    · intro hidle
      exact absurd hidle hrun
    · intro error write hm
      rcases List.mem_append.1 hm with hm | hm
      · exact h.captured error write hm
      · cases List.mem_singleton.1 hm
        rfl

theorem homeAgrees_profileWritten (s : Session) (write : Write) (answer : Answer) :
    (SignupVC.profileWritten none write answer s).HomeAgrees ↔
      s.currentUser = some s.userID := by
  rw [SignupVC.profileWritten]
  exact ⟨fun ht => (ht rfl).2.2, fun hc _ => ⟨rfl, rfl, hc⟩⟩

theorem agrees_profileWritten (s : Session) (write : Write) (answer : Answer) :
    (SignupVC.profileWritten none write answer s).Agrees ↔
      s.loggedOut = false ∧ s.currentUser = some s.userID := by
  rw [Agrees, homeAgrees_profileWritten]
  constructor
  · intro ht
    obtain ⟨hc, hclear⟩ := ht
    have hout := hclear.not_out hc
    exact ⟨hout, hc⟩
  · intro hc
    exact ⟨hc.2, .of_false hc.1⟩

theorem Kept.profileWritten (h : s.Kept) (hc : s.currentUser = some s.userID) (write : Write)
    (answer : Answer) : (SignupVC.profileWritten none write answer s).Kept := by
  rw [SignupVC.profileWritten]
  exact ⟨fun _ => ⟨_, rfl, hc⟩, nofun, nofun, h.captured⟩

theorem Kept.homeAgrees_launch (h : s.Kept) : s.launch.HomeAgrees := by
  intro hroot
  have hlogin : s.login.isSome := by
    by_contra hn
    have hroot : (if s.login.isSome then Root.homeNavi else .loginNavi) = .homeNavi := hroot
    rw [if_neg hn] at hroot
    cases hroot
  obtain ⟨uid, hstored, hcurrent⟩ := h.persisted hlogin
  refine ⟨hlogin, ?_, ?_⟩
  · show s.storedID = some (s.storedID.getD "1234")
    rw [hstored]
    rfl
  · show s.currentUser = some (s.storedID.getD "1234")
    rw [hstored]
    exact hcurrent

theorem Kept.launch (h : s.Kept) : s.launch.Kept where
  persisted := h.persisted
  loginNavi hroot := by
    show s.login = none
    have hroot : (if s.login.isSome then Root.homeNavi else .loginNavi) = .loginNavi := hroot
    split at hroot
    · cases hroot
    · rename_i hn
      exact Option.not_isSome_iff_eq_none.1 hn
  idle _ := rfl
  captured := nofun

theorem agrees_click_onLogoutBtn (ha : s.Agrees) (hroot : s.root = .homeNavi)
    (error : Option String) : (s.click_onLogoutBtn error).Agrees ↔ error = none := by
  obtain ⟨-, -, hcurrent⟩ := ha.1 hroot
  constructor
  · intro ht
    have hnone : (if error = none then none else s.currentUser) = none := (ht.2 rfl).2.2
    by_contra he
    rw [if_neg he, hcurrent] at hnone
    cases hnone
  · intro he
    refine ⟨nofun, fun _ => ⟨rfl, rfl, ?_⟩⟩
    show (if error = none then none else s.currentUser) = none
    rw [if_pos he]

theorem Kept.click_onLogoutBtn (h : s.Kept) (error : Option String) :
    (s.click_onLogoutBtn error).Kept where
  persisted := nofun
  loginNavi _ := rfl
  idle := nofun
  captured := h.captured

theorem getElem?_of_lt {requests : List Request} (h : i < requests.length) :
    ∃ request, requests[i]? = some request :=
  ⟨_, List.getElem?_eq_getElem h⟩

theorem step_completed (hi : s.inFlight[i]? = some request) (answer : Answer) :
    s.step (.completed i answer) =
      some (request.completed answer { s with inFlight := s.inFlight.eraseIdx i }) := by
  rw [step, hi]
  rfl

theorem Undisturbed.completed_iff (hi : s.inFlight[i]? = some request) (answer : Answer) :
    s.Undisturbed (.completed i answer) ↔ request.Undisturbed answer s := by
  rw [Undisturbed, hi]
  constructor
  · intro h
    exact h request (Option.mem_some_self request)
  · intro h request' hr
    cases hr
    exact h

theorem agrees_step (h : s.Kept) (ha : s.Agrees) (hen : s.Enabled e) (hs : s.step e = some t) :
    t.Agrees ↔ s.Undisturbed e := by
  cases e with
  | launch =>
    cases hs
    exact ⟨fun _ => trivial, fun _ => ⟨h.homeAgrees_launch, ha.2⟩⟩
  | loginbtnclick txtEmail txtPassword =>
    cases hs
    refine ⟨fun _ => trivial, fun _ => loginbtnclick_cases (fun _ => ha) ?_ _ _⟩
    exact ⟨ha.1, nofun⟩
  | clickonsignup txtName txtEmail txtPasswoprd =>
    cases hs
    refine ⟨fun _ => trivial, fun _ => clickonsignup_cases (fun _ => ha) ?_ _ _ _⟩
    exact ⟨ha.1, nofun⟩
  | completed i answer =>
    obtain ⟨request, hi⟩ := getElem?_of_lt hen
    rw [step_completed hi] at hs
    cases hs
    rw [Undisturbed.completed_iff hi]
    have ha' : Agrees { s with inFlight := s.inFlight.eraseIdx i } := ha
    cases request with
    | signIn loginVC => exact agrees_signedIn ha' loginVC answer
    | createUser => exact agrees_userCreated ha' answer
    | setData error write =>
      cases h.captured error write (List.mem_of_getElem? hi)
      exact agrees_profileWritten _ write answer
  | click_onLogoutBtn error =>
    cases hs
    exact agrees_click_onLogoutBtn ha hen error

theorem Kept.step (h : s.Kept) (ha : s.Agrees) (hen : s.Enabled e) (hc : s.Undisturbed e)
    (hs : s.step e = some t) : t.Kept := by
  cases e with
  | launch =>
    cases hs
    exact h.launch
  | loginbtnclick txtEmail txtPassword =>
    cases hs
    exact loginbtnclick_cases h.showAlertMsg (h.start hen nofun) _ _
  | clickonsignup txtName txtEmail txtPasswoprd =>
    cases hs
    exact clickonsignup_cases h.showAlertMsg (h.start hen nofun) _ _ _
  | completed i answer =>
    obtain ⟨request, hi⟩ := getElem?_of_lt hen
    rw [step_completed hi] at hs
    cases hs
    have hc := (Undisturbed.completed_iff hi answer).1 hc
    have h' := h.without i
    have ha' : Agrees { s with inFlight := s.inFlight.eraseIdx i } := ha
    cases request with
    | signIn loginVC => exact h'.signedIn loginVC answer
    | createUser =>
      have hrun : s.root ≠ .notRunning := by
        intro hroot
        have hlen : i < s.inFlight.length := hen
        rw [h.idle hroot] at hlen
        exact Nat.not_lt_zero i hlen
      exact h'.userCreated ha'.1 hrun fun he => (hc he).2
    | setData error write =>
      cases h.captured error write (List.mem_of_getElem? hi)
      exact h'.profileWritten hc.2 write answer
  | click_onLogoutBtn error =>
    cases hs
    exact h.click_onLogoutBtn error

/-- The places that keep the user agree throughout exactly if all steps are undisturbed. -/
theorem agrees_throughout_iff (h : machine.Run (fun _ _ => True) installed es t) :
    machine.Throughout (fun _ _ => True) Agrees installed es ↔
      machine.Run (fun s e => True ∧ s.Undisturbed e) installed es t := by
  apply h.throughout_iff (I := Kept)
  · intro s e t hk ha hen _ hs
    exact agrees_step hk ha hen hs
  · intro s e t hk ha hen _ hc hs
    exact hk.step ha hen hc hs
  · exact kept_installed
  · exact agrees_installed

def oneAfterAnother : List Event := [
  .launch, .clickonsignup "Ann" "a@b" "secret", .completed 0 ⟨none, "u1", "Ann", "a@b"⟩,
  .completed 0 ⟨none, "", "", ""⟩, .click_onLogoutBtn none, .loginbtnclick "a@b" "secret",
  .completed 0 ⟨none, "u1", "", ""⟩]

theorem agrees_one_after_another : ∃ t,
    machine.Run (fun _ _ => True) installed oneAfterAnother t ∧
      machine.Throughout (fun _ _ => True) Agrees installed oneAfterAnother ∧
      t.root = .homeNavi ∧ t.userID = "u1" := by
  obtain ⟨t, hr, hp⟩ := machine.run_of_exec (fun s e => True ∧ s.Undisturbed e) installed
    oneAfterAnother (fun t => t.root == .homeNavi && t.userID == "u1") (by decide +kernel)
  have hrun := hr.mono fun _ _ h => h.1
  rw [Bool.and_eq_true, beq_iff_eq, beq_iff_eq] at hp
  exact ⟨t, hrun, (agrees_throughout_iff hrun).2 hr, hp⟩

def overlapping : List Event := [
  .launch, .clickonsignup "Ann" "a@b" "secret", .loginbtnclick "b@c" "secret",
  .completed 1 ⟨none, "u1", "", ""⟩]

/-- A sign-up ends after a sign-in, and another after the logout that followed. -/
theorem signup_overlaps_signin :
    (∃ t, machine.Run (fun _ _ => True) installed
        (overlapping ++ [.completed 0 ⟨none, "u2", "Ann", "a@b"⟩]) t ∧
      t.root = .homeNavi ∧ t.storedID = some "u1" ∧ t.userID = "u2") ∧
    ∃ t, machine.Run (fun _ _ => True) installed
        (overlapping ++ [.click_onLogoutBtn none, .completed 0 ⟨none, "u2", "Ann", "a@b"⟩]) t ∧
      t.loggedOut = true ∧ t.currentUser = some "u2" := by
  constructor
  · obtain ⟨t, hr, hp⟩ := machine.run_of_exec (fun _ _ => True) installed
      (overlapping ++ [.completed 0 ⟨none, "u2", "Ann", "a@b"⟩])
      (fun t => t.root == .homeNavi && (t.storedID == some "u1" && t.userID == "u2"))
      (by decide +kernel)
    simp only [Bool.and_eq_true, beq_iff_eq] at hp
    exact ⟨t, hr, hp⟩
  · obtain ⟨t, hr, hp⟩ := machine.run_of_exec (fun _ _ => True) installed
      (overlapping ++ [.click_onLogoutBtn none, .completed 0 ⟨none, "u2", "Ann", "a@b"⟩])
      (fun t => t.loggedOut && t.currentUser == some "u2") (by decide +kernel)
    simp only [Bool.and_eq_true, beq_iff_eq] at hp
    exact ⟨t, hr, hp⟩

end Session

end TrainingDemos.FirebasePractise
