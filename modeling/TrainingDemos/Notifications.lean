import Mathlib.Data.List.Nodup
import Mathlib.Data.List.Perm.Subperm
import TrainingDemos.Transitions

namespace TrainingDemos
set_option autoImplicit true

/-- `x` takes the place of what has its key, and comes last. -/
def putLast [DecidableEq κ] (key : α → κ) (x : α) (xs : List α) : List α :=
  xs.filter (fun y => key y ≠ key x) ++ [x]

theorem mem_putLast [DecidableEq κ] {key : α → κ} :
    y ∈ putLast key x xs ↔ y ∈ xs ∧ key y ≠ key x ∨ y = x := by
  rw [putLast, List.mem_append, List.mem_filter, List.mem_singleton, decide_eq_true_iff]

theorem nodup_putLast [DecidableEq κ] {key : α → κ} (h : (xs.map key).Nodup) :
    ((putLast key x xs).map key).Nodup := by
  rw [putLast, List.map_append, List.nodup_append]
  refine ⟨h.sublist (List.filter_sublist.map key), List.nodup_singleton _, ?_⟩
  intro k hk l hl
  obtain ⟨y, hy, hyk⟩ := List.mem_map.1 hk
  rw [List.mem_filter, decide_eq_true_iff] at hy
  rw [List.mem_singleton.1 hl, ← hyk]
  exact hy.2

structure NotificationAction where
  identifier : String
  title : String
  deriving DecidableEq

structure NotificationCategory where
  identifier : String
  actions : List NotificationAction
  customDismissAction : Bool
  deriving DecidableEq

/-- A trigger after some seconds, which repeats every minute at most. -/
structure TimeIntervalTrigger where
  timeInterval : Nat
  repeats : Bool
  pos : 0 < timeInterval
  minute : repeats = true → 60 ≤ timeInterval
  deriving DecidableEq

/-- Any other trigger raises an exception where it is made. -/
def TimeIntervalTrigger.make (timeInterval : Nat) (repeats : Bool) : Option TimeIntervalTrigger :=
  if h : 0 < timeInterval ∧ (repeats = true → 60 ≤ timeInterval) then
    some ⟨timeInterval, repeats, h.1, h.2⟩
  else none

structure NotificationContent where
  title : String
  subtitle : String := ""
  body : String
  categoryIdentifier : String := ""
  userInfo : List (String × String) := []
  deriving DecidableEq

structure NotificationRequest where
  identifier : String
  content : NotificationContent
  trigger : TimeIntervalTrigger
  deriving DecidableEq

theorem length_requests_le {requests : List NotificationRequest} (identifiers : List String)
    (hn : (requests.map NotificationRequest.identifier).Nodup)
    (h : ∀ r ∈ requests, r.identifier ∈ identifiers) : requests.length ≤ identifiers.length := by
  rw [← List.length_map (f := NotificationRequest.identifier)]
  refine (List.subperm_of_subset hn fun k hk => ?_).length_le
  obtain ⟨r, hr, hk⟩ := List.mem_map.1 hk
  rw [← hk]
  exact h r hr

/-- Pending requests and notifications on display have distinct identifiers among each other. -/
structure NotificationCenter where
  categories : List NotificationCategory
  pending : List NotificationRequest
  delivered : List NotificationRequest
  nodup_pending : (pending.map NotificationRequest.identifier).Nodup
  nodup_delivered : (delivered.map NotificationRequest.identifier).Nodup
  deriving DecidableEq

namespace NotificationCenter

def empty : NotificationCenter := ⟨[], [], [], List.nodup_nil, List.nodup_nil⟩

/-- The categories replace those that were registered before. -/
def setNotificationCategories (categories : List NotificationCategory) (c : NotificationCenter) :
    NotificationCenter :=
  { c with categories := categories }

/-- The center may refuse a request, which its completion handler is then told. -/
def add (request : NotificationRequest) (error : Option String) (c : NotificationCenter) :
    NotificationCenter :=
  match error with
  | some _ => c
  | none =>
    { c with
      pending := putLast NotificationRequest.identifier request c.pending
      nodup_pending := nodup_putLast c.nodup_pending }

/-- A pending request goes off. It stays pending if its trigger repeats. -/
def fire (i : Nat) (c : NotificationCenter) : Option NotificationCenter := do
  let request ← c.pending[i]?
  some { c with
    pending := if request.trigger.repeats then c.pending else c.pending.eraseIdx i
    delivered := putLast NotificationRequest.identifier request c.delivered
    nodup_pending := by
      split
      · exact c.nodup_pending
      · exact c.nodup_pending.sublist ((List.eraseIdx_sublist _ _).map _)
    nodup_delivered := nodup_putLast c.nodup_delivered }

def remove (i : Nat) (c : NotificationCenter) : NotificationCenter :=
  { c with
    delivered := c.delivered.eraseIdx i
    nodup_delivered := c.nodup_delivered.sublist ((List.eraseIdx_sublist _ _).map _) }

def defaultActionIdentifier : String := "com.apple.UNNotificationDefaultActionIdentifier"

def dismissActionIdentifier : String := "com.apple.UNNotificationDismissActionIdentifier"

def NotificationCategory.actionIdentifiers (category : NotificationCategory) : List String :=
  category.actions.map NotificationAction.identifier ++
    if category.customDismissAction then [dismissActionIdentifier] else []

/-- That of a tap, and those of the category if it is registered. -/
def responses (c : NotificationCenter) (content : NotificationContent) : List String :=
  defaultActionIdentifier ::
    match c.categories.find? (fun category => category.identifier = content.categoryIdentifier) with
    | some category => NotificationCategory.actionIdentifiers category
    | none => []

structure Each (P : NotificationRequest → Prop) (c : NotificationCenter) : Prop where
  pending : ∀ r ∈ c.pending, P r
  delivered : ∀ r ∈ c.delivered, P r

variable {P : NotificationRequest → Prop} {c : NotificationCenter}

theorem Each.empty : NotificationCenter.empty.Each P := ⟨nofun, nofun⟩

theorem Each.register (h : c.Each P) (categories : List NotificationCategory) :
    (c.setNotificationCategories categories).Each P :=
  ⟨h.pending, h.delivered⟩

theorem Each.add (h : c.Each P) (error : Option String) (hr : P request) :
    (c.add request error).Each P := by
  cases error with
  | some error => exact h
  | none =>
    refine ⟨fun r hmem => ?_, h.delivered⟩
    obtain hold | hnew := mem_putLast.1 hmem
    · exact h.pending r hold.1
    · rw [hnew]
      exact hr

theorem fire_cases (h : c.fire i = some d) : ∃ request, c.pending[i]? = some request ∧
    d.categories = c.categories ∧
    d.delivered = putLast NotificationRequest.identifier request c.delivered ∧
    d.pending = if request.trigger.repeats then c.pending else c.pending.eraseIdx i := by
  obtain ⟨request, hr, hd⟩ := Option.bind_eq_some_iff.1 h
  cases hd
  exact ⟨request, hr, rfl, rfl, rfl⟩

theorem fire_isSome (h : i < c.pending.length) : (c.fire i).isSome := by
  rw [fire, List.getElem?_eq_getElem h]
  rfl

theorem Each.fire (h : c.Each P) (hf : c.fire i = some d) : d.Each P := by
  obtain ⟨request, hr, -, hd, hp⟩ := fire_cases hf
  refine ⟨fun r hmem => ?_, fun r hmem => ?_⟩
  · rw [hp] at hmem
    split at hmem
    · exact h.pending r hmem
    · exact h.pending r (List.mem_of_mem_eraseIdx hmem)
  · rw [hd] at hmem
    obtain hold | hnew := mem_putLast.1 hmem
    · exact h.delivered r hold.1
    · rw [hnew]
      exact h.pending request (List.mem_of_getElem? hr)

theorem Each.remove (h : c.Each P) (i : Nat) : (c.remove i).Each P where
  pending := h.pending
  delivered r hmem := h.delivered r (List.mem_of_mem_eraseIdx hmem)

end NotificationCenter

end TrainingDemos
