import TrainingDemos.FirebasePractise.SessionAgreement

namespace TrainingDemos.FirebasePractise.Session
set_option autoImplicit true

/-- A press of the sign-up button, and the answers to its two stages. -/
def signup (n : Nat) (txtName txtEmail txtPasswoprd : String) (created wrote : Answer) :
    List Event :=
  .clickonsignup txtName txtEmail txtPasswoprd :: .completed n created ::
    if created.error = none then [.completed n wrote] else []

/-- The sign-up completes exactly if both stages succeed, and the user hears of a failed write. -/
structure Completes (s t : Session) (created wrote : Answer) : Prop where
  iff_both : (t.login.isSome ∧ t.storedID = some created.uid ∧ t.root = .homeNavi) ↔
    created.error = none ∧ wrote.error = none
  unchanged : ¬ (created.error = none ∧ wrote.error = none) →
    t.login = s.login ∧ t.storedID = s.storedID ∧ t.root = s.root
  reported : created.error = none → ∀ msg, wrote.error = some msg → t.alerts = s.alerts ++ [msg]

variable {s : Session}

theorem clickonsignup_accepted (hn : txtName ≠ "") (he : txtEmail ≠ "") (hp : txtPasswoprd ≠ "") :
    SignupVC.clickonsignup txtName txtEmail txtPasswoprd s = s.start .createUser := by
  rw [SignupVC.clickonsignup, validationTextfield, if_pos hn, validationTextfield, if_pos he,
    validationTextfield, if_pos hp]
  rfl

theorem step_last {requests : List Request} (hs : s.inFlight = requests ++ [request])
    (answer : Answer) : s.Enabled (.completed requests.length answer) ∧
      s.step (.completed requests.length answer) =
        some (request.completed answer { s with inFlight := requests }) := by
  constructor
  · show requests.length < s.inFlight.length
    rw [hs, List.length_append]
    exact Nat.lt_succ_self _
  · have hi : s.inFlight[requests.length]? = some request := by
      rw [hs, List.getElem?_concat_length]
    have herase : s.inFlight.eraseIdx requests.length = requests := by
      rw [hs, List.eraseIdx_append_of_length_le le_rfl, Nat.sub_self]
      exact List.append_nil _
    rw [step_completed hi, herase]

theorem userCreated_of_success (h : answer.error = none) (s : Session) :
    SignupVC.userCreated answer s =
      { s with
        currentUser := some answer.uid
        userID := answer.uid
        inFlight := s.inFlight ++ [.setData none (SignupVC.profile answer)] } := by
  rw [SignupVC.userCreated, h]

theorem userCreated_of_failure (h : answer.error ≠ none) (s : Session) :
    SignupVC.userCreated answer s = s := by
  obtain ⟨error, he⟩ := Option.ne_none_iff_exists'.1 h
  rw [SignupVC.userCreated, he]

theorem completes_of_failure (hroot : s.root = .loginNavi) (he : created.error ≠ none) :
    Completes s { s with loggedOut := false } created wrote := by
  constructor
  · constructor
    · intro h
      have hhome : s.root = .homeNavi := h.2.2
      rw [hroot] at hhome
      cases hhome
    · intro h
      exact absurd h.1 he
  · intro _
    exact ⟨rfl, rfl, rfl⟩
  · intro h
    exact absurd h he

theorem completes_written_iff {t : Session} (hc : created.error = none)
    (hlogin : t.login = some 1) (hstored : t.storedID = some created.uid)
    (hhome : t.root = .homeNavi) :
    Completes s t created wrote ↔ wrote.error = none := by
  have hshown : t.login.isSome ∧ t.storedID = some created.uid ∧ t.root = .homeNavi :=
    ⟨by rw [hlogin]; rfl, hstored, hhome⟩
  constructor
  · intro h
    exact (h.iff_both.1 hshown).2
  · intro hw
    refine ⟨⟨fun _ => ⟨hc, hw⟩, fun _ => hshown⟩, fun h => absurd ⟨hc, hw⟩ h, ?_⟩
    intro _ msg hmsg
    rw [hw] at hmsg
    cases hmsg

/-- A sign-up keeps to its two stages exactly if the first fails or the second succeeds. -/
theorem signup_completes_iff (s : Session) (txtName txtEmail txtPasswoprd : String)
    (created wrote : Answer) (hroot : s.root = .loginNavi) (hn : txtName ≠ "")
    (he : txtEmail ≠ "") (hp : txtPasswoprd ≠ "") :
    ∃ t, machine.Run (fun _ _ => True) s
        (signup s.inFlight.length txtName txtEmail txtPasswoprd created wrote) t ∧
      (Completes s t created wrote ↔ created.error ≠ none ∨ wrote.error = none) := by
  have hclick : s.step (.clickonsignup txtName txtEmail txtPasswoprd) =
      some (s.start .createUser) := by
    rw [step, clickonsignup_accepted hn he hp]
  obtain ⟨hen, hstep⟩ := step_last (s := s.start .createUser) rfl created
  by_cases hc : created.error = none
  · have hcreated := userCreated_of_success hc { s with loggedOut := false }
    have hstep : (s.start .createUser).step (.completed s.inFlight.length created) = _ :=
      hstep.trans (congrArg some hcreated)
    obtain ⟨hen', hstep'⟩ := step_last (s := { s with
      loggedOut := false
      currentUser := some created.uid
      userID := created.uid
      inFlight := s.inFlight ++ [.setData none (SignupVC.profile created)] }) rfl wrote
    refine ⟨SignupVC.profileWritten none (SignupVC.profile created) wrote { s with
      loggedOut := false
      currentUser := some created.uid
      userID := created.uid }, ?_, ?_⟩
    · rw [signup, if_pos hc]
      refine .cons hroot trivial hclick (.cons hen trivial hstep ?_)
      exact .cons hen' trivial hstep' (.nil _)
    · rw [completes_written_iff hc rfl rfl rfl]
      exact ⟨.inr, fun h => h.resolve_left (absurd hc)⟩
  · have hstep : (s.start .createUser).step (.completed s.inFlight.length created) =
        some { s with loggedOut := false } :=
      hstep.trans (congrArg some (userCreated_of_failure hc { s with loggedOut := false }))
    refine ⟨{ s with loggedOut := false }, ?_, ?_⟩
    · rw [signup, if_neg hc]
      exact .cons hroot trivial hclick (.cons hen trivial hstep (.nil _))
    · exact ⟨fun _ => .inl hc, fun _ => completes_of_failure hroot hc⟩

theorem signup_of_both : ∃ t, machine.Run (fun _ _ => True) installed.launch
      (signup 0 "Ann" "a@b" "secret" ⟨none, "u1", "Ann", "a@b"⟩ ⟨none, "", "", ""⟩) t ∧
    Completes installed.launch t ⟨none, "u1", "Ann", "a@b"⟩ ⟨none, "", "", ""⟩ := by
  obtain ⟨t, hr, ht⟩ := signup_completes_iff installed.launch "Ann" "a@b" "secret"
    ⟨none, "u1", "Ann", "a@b"⟩ ⟨none, "", "", ""⟩ rfl (by decide) (by decide) (by decide)
  exact ⟨t, hr, ht.2 (.inr rfl)⟩

theorem failed_profile_ignored : ∃ t, machine.Run (fun _ _ => True) installed.launch
      (signup 0 "Ann" "a@b" "secret" ⟨none, "u1", "Ann", "a@b"⟩ ⟨some "offline", "", "", ""⟩) t ∧
    t.root = .homeNavi ∧ t.login = some 1 ∧ t.storedID = some "u1" ∧ t.alerts = [] ∧
    ¬ Completes installed.launch t ⟨none, "u1", "Ann", "a@b"⟩ ⟨some "offline", "", "", ""⟩ := by
  obtain ⟨t, hr, hp⟩ := machine.run_of_exec (fun _ _ => True) installed.launch
    (signup 0 "Ann" "a@b" "secret" ⟨none, "u1", "Ann", "a@b"⟩ ⟨some "offline", "", "", ""⟩)
    (fun t => t.root == .homeNavi && (t.login == some 1 &&
      (t.storedID == some "u1" && t.alerts == []))) (by decide +kernel)
  simp only [Bool.and_eq_true, beq_iff_eq] at hp
  obtain ⟨hroot, hlogin, hstored, halerts⟩ := hp
  refine ⟨t, hr, hroot, hlogin, hstored, halerts, ?_⟩
  intro h
  have hmsg := h.reported rfl "offline" rfl
  rw [halerts] at hmsg
  cases hmsg

end TrainingDemos.FirebasePractise.Session
