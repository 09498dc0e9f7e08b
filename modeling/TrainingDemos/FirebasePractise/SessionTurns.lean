import TrainingDemos.FirebasePractise.SessionAgreement

namespace TrainingDemos.FirebasePractise.Session
set_option autoImplicit true

/-- Requests to sign in or up are sent one at a time, and succeed. -/
def InTurn (s : Session) : Event → Prop
  | .loginbtnclick _ _ | .clickonsignup _ _ _ => s.inFlight = []
  | .completed _ answer => answer.error = none
  | _ => True

instance (s : Session) : (e : Event) → Decidable (s.InTurn e)
  | .loginbtnclick _ _ | .clickonsignup _ _ _ => inferInstanceAs (Decidable (_ = []))
  | .completed _ _ => inferInstanceAs (Decidable (_ = none))
  | .launch | .click_onLogoutBtn _ => inferInstanceAs (Decidable True)

/-- A request is on its way only while the login screens are shown. -/
structure Ordered (s : Session) : Prop where
  homeAgrees : s.HomeAgrees
  kept : s.Kept
  single : s.inFlight = [] ∨ s.root = .loginNavi ∧ ∃ request, s.inFlight = [request]
  pending : ∀ error write, .setData error write ∈ s.inFlight → s.currentUser = some s.userID

/-- The home screen is the same one only for the same user. -/
structure Succeeds (s t : Session) : Prop where
  screen : s.screen ≤ t.screen
  sameUser : t.screen = s.screen → t.root = .homeNavi →
    s.root = .homeNavi ∧ t.userID = s.userID

theorem ordered_installed : installed.Ordered :=
  ⟨nofun, kept_installed, .inl rfl, nofun⟩

theorem Succeeds.of_next {s t : Session} (h : t.screen = s.screen + 1) : Succeeds s t where
  screen := by omega
  sameUser hs := by omega

theorem Succeeds.of_root {s t : Session} (h : t.screen = s.screen) (hr : t.root ≠ .homeNavi) :
    Succeeds s t :=
  ⟨Nat.le_of_eq h.symm, fun _ hh => absurd hh hr⟩

variable {s : Session}

theorem Ordered.start (h : s.Ordered) (hr : s.root = .loginNavi) (hs : s.inFlight = [])
    (hn : ∀ error write, request ≠ .setData error write) : (s.start request).Ordered where
  homeAgrees := h.homeAgrees
  kept := h.kept.start hr fun error write he => absurd he (hn error write)
  single := by
    refine .inr ⟨hr, request, ?_⟩
    show s.inFlight ++ [request] = [request]
    rw [hs]
    rfl
  pending error write hm := by
    have hm : .setData error write ∈ s.inFlight ++ [request] := hm
    rw [hs] at hm
    exact absurd (List.mem_singleton.1 hm).symm (hn error write)

theorem Ordered.showAlertMsg (h : s.Ordered) (msg : String) : (s.showAlertMsg msg).Ordered :=
  ⟨h.homeAgrees, h.kept.showAlertMsg msg, h.single, h.pending⟩

theorem Ordered.of_idle (ha : s.HomeAgrees) (hk : s.Kept) (hs : s.inFlight = []) : s.Ordered where
  homeAgrees := ha
  kept := hk
  single := .inl hs
  pending error write hm := by
    rw [hs] at hm
    cases hm

theorem Ordered.only (h : s.Ordered) (hi : s.inFlight[i]? = some request) :
    s.root = .loginNavi ∧ s.inFlight.eraseIdx i = [] := by
  rcases h.single with hs | ⟨hroot, request', hs⟩
  · rw [hs] at hi
    cases hi
  · rw [hs] at hi ⊢
    cases i with
    | zero => exact ⟨hroot, rfl⟩
    | succ i => cases hi

theorem Ordered.completed (h : s.Ordered) (hi : s.inFlight[i]? = some request)
    (he : answer.error = none) (ht : s.step (.completed i answer) = some t) :
    t.Ordered ∧ Succeeds s t := by
  obtain ⟨hroot, hnone⟩ := h.only hi
  have hk := h.kept.without i
  have ha : HomeAgrees { s with inFlight := s.inFlight.eraseIdx i } := h.homeAgrees
  rw [step_completed hi] at ht
  cases ht
  cases request with
  | signIn loginVC =>
    have ha := ha.signedIn loginVC answer
    have hk := hk.signedIn loginVC answer
    rw [Request.completed]
    rw [LoginVC.signedIn, he] at ha hk ⊢
    dsimp only at ha hk ⊢
    split at ha
    · rename_i halive
      rw [if_pos halive] at hk ⊢
      exact ⟨.of_idle ha hk hnone, .of_next rfl⟩
    · rename_i hdead
      rw [if_neg hdead] at hk ⊢
      have hoff : Root.notRunning ≠ .homeNavi := by decide
      exact ⟨.of_idle ha hk rfl, .of_root rfl hoff⟩
  | createUser =>
    have hoff : s.root ≠ .homeNavi := by
      rw [hroot]
      decide
    have hrun : s.root ≠ .notRunning := by
      rw [hroot]
      decide
    have hk : (SignupVC.userCreated answer _).Kept :=
      hk.userCreated ha hrun fun _ hh => absurd hh hoff
    have ha := (homeAgrees_userCreated ha answer).2 fun _ hh => absurd hh hoff
    rw [Request.completed]
    rw [SignupVC.userCreated, he] at ha hk ⊢
    dsimp only at ha hk ⊢
    rw [hnone] at ha hk ⊢
    refine ⟨⟨ha, hk, .inr ⟨hroot, _, rfl⟩, ?_⟩, .of_root rfl hoff⟩
    intro error write _
    rfl
  | setData error write =>
    have hmem := List.mem_of_getElem? hi
    cases h.kept.captured error write hmem
    have hc := h.pending none write hmem
    have hk := hk.profileWritten hc write answer
    have ha := (homeAgrees_profileWritten { s with inFlight := s.inFlight.eraseIdx i }
      write answer).2 hc
    exact ⟨.of_idle ha hk hnone, .of_next rfl⟩

theorem Ordered.step (h : s.Ordered) (hen : s.Enabled e) (hb : s.InTurn e)
    (hs : s.step e = some t) : t.Ordered ∧ Succeeds s t := by
  cases e with
  | launch =>
    cases hs
    exact ⟨.of_idle h.kept.homeAgrees_launch h.kept.launch rfl, .of_next rfl⟩
  | loginbtnclick txtEmail txtPassword =>
    cases hs
    have hen : s.root = .loginNavi := hen
    have hroot : s.root ≠ .homeNavi := by
      rw [hen]
      nofun
    apply loginbtnclick_cases (P := fun t => t.Ordered ∧ Succeeds s t)
    · intro msg
      exact ⟨h.showAlertMsg msg, .of_root rfl hroot⟩
    · exact ⟨h.start hen hb nofun, .of_root rfl hroot⟩
  | clickonsignup txtName txtEmail txtPasswoprd =>
    cases hs
    have hen : s.root = .loginNavi := hen
    have hroot : s.root ≠ .homeNavi := by
      rw [hen]
      nofun
    apply clickonsignup_cases (P := fun t => t.Ordered ∧ Succeeds s t)
    · intro msg
      exact ⟨h.showAlertMsg msg, .of_root rfl hroot⟩
    · exact ⟨h.start hen hb nofun, .of_root rfl hroot⟩
  | completed i answer =>
    obtain ⟨request, hi⟩ := getElem?_of_lt hen
    exact h.completed hi hb hs
  | click_onLogoutBtn error =>
    cases hs
    have hen : s.root = .homeNavi := hen
    have hnone : s.inFlight = [] := by
      rcases h.single with hf | hf
      · exact hf
      · rw [hf.1] at hen
        cases hen
    exact ⟨.of_idle nofun (h.kept.click_onLogoutBtn error) hnone, .of_next rfl⟩

end TrainingDemos.FirebasePractise.Session
