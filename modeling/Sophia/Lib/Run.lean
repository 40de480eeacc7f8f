import Mathlib.Data.List.Induction

/-! Runs of a deterministic step function, with guards and histories. -/
namespace Sophia.Run

variable {σ α : Type*} (step : σ → α → σ)

/-- The state after a sequence of actions. -/
def exec (s : σ) (actions : List α) : σ := actions.foldl step s

/-- Every action of the run meets a condition on the state it is taken from. -/
def Guarded (ok : σ → α → Prop) (s : σ) (actions : List α) : Prop :=
  ∀ before a after, actions = before ++ a :: after → ok (exec step s before) a

variable {step} {s : σ} {a : α} {actions more : List α} {ok : σ → α → Prop}

@[simp] theorem exec_nil : exec step s [] = s := rfl

@[simp] theorem exec_cons : exec step s (a :: actions) = exec step (step s a) actions := rfl

theorem exec_append : exec step s (actions ++ more) = exec step (exec step s actions) more := by
  simp [exec]

theorem exec_snoc : exec step s (actions ++ [a]) = step (exec step s actions) a := by
  simp [exec_append]

theorem Guarded.left (h : Guarded step ok s (actions ++ more)) : Guarded step ok s actions := by
  intro before a after he
  exact h before a (after ++ more) (by simp [he])

theorem Guarded.last (h : Guarded step ok s (actions ++ [a])) : ok (exec step s actions) a :=
  h actions a [] rfl

theorem Guarded.right (h : Guarded step ok s (actions ++ more)) :
    Guarded step ok (exec step s actions) more := by
  intro before a after he
  rw [← exec_append]
  exact h (actions ++ before) a after (by simp [he])

theorem guarded_nil : Guarded step ok s [] := by
  intro before a after he
  simp at he

theorem Guarded.cons (ha : ok s a) (h : Guarded step ok (step s a) actions) :
    Guarded step ok s (a :: actions) := by
  intro before b after he
  cases before with
  | nil =>
    cases he
    exact ha
  | cons c before =>
    cases he
    exact h before b after rfl

theorem guarded_cons :
    Guarded step ok s (a :: actions) ↔ ok s a ∧ Guarded step ok (step s a) actions := by
  refine ⟨fun h => ⟨h [] a actions rfl, ?_⟩, fun h => .cons h.1 h.2⟩
  intro before b after he
  exact h (a :: before) b after (by simp [he])

/-- Whether a run meets a decidable guard is found by running it. -/
instance decidableGuarded [∀ s a, Decidable (ok s a)] :
    ∀ (s : σ) (actions : List α), Decidable (Guarded step ok s actions)
  | _, [] => isTrue guarded_nil
  | s, a :: actions =>
    have := decidableGuarded (step s a) actions
    decidable_of_iff _ guarded_cons.symm

/-- What holds of the empty history and survives one guarded action holds of every run. -/
theorem history_induction {P : List α → σ → Prop} (hnil : P [] s)
    (hstep : ∀ before a, Guarded step ok s (before ++ [a]) → P before (exec step s before) →
      P (before ++ [a]) (step (exec step s before) a))
    (hok : Guarded step ok s actions) : P actions (exec step s actions) := by
  induction actions using List.reverseRecOn with
  | nil => exact hnil
  | append_singleton before a ih =>
    rw [exec_snoc]
    exact hstep before a hok (ih hok.left)

/-- A state predicate kept by every guarded step holds along every guarded run. -/
theorem invariant {P : σ → Prop} (hs : P s) (hstep : ∀ s a, ok s a → P s → P (step s a))
    (hok : Guarded step ok s actions) : P (exec step s actions) :=
  history_induction (P := fun _ s => P s) hs (fun _ _ hg hp => hstep _ _ hg.last hp) hok

theorem guarded_snoc :
    Guarded step ok s (actions ++ [a]) ↔ Guarded step ok s actions ∧ ok (exec step s actions) a := by
  refine ⟨fun h => ⟨h.left, h.last⟩, ?_⟩
  rintro ⟨h, ha⟩ before b after he
  rcases List.eq_nil_or_concat after with rfl | ⟨after, c, rfl⟩
  · obtain ⟨rfl, hb⟩ := List.append_inj' he rfl
    cases hb
    exact ha
  · have he : actions ++ [a] = (before ++ b :: after) ++ [c] := by simpa using he
    obtain ⟨hact, -⟩ := List.append_inj' he rfl
    exact h before b after hact

theorem Guarded.append (h : Guarded step ok s actions)
    (hmore : Guarded step ok (exec step s actions) more) :
    Guarded step ok s (actions ++ more) := by
  induction more using List.reverseRecOn with
  | nil => simpa using h
  | append_singleton more a ih =>
    rw [← List.append_assoc, guarded_snoc, exec_append]
    exact ⟨ih hmore.left, hmore.last⟩

/-- Two guards that agree wherever the first one's invariant holds admit the same runs. -/
theorem guarded_congr {ok' : σ → α → Prop} {I : σ → Prop} (hs : I s)
    (hinv : ∀ s a, I s → ok s a → I (step s a)) (hiff : ∀ s a, I s → (ok' s a ↔ ok s a)) :
    Guarded step ok' s actions ↔ Guarded step ok s actions := by
  suffices h : (Guarded step ok' s actions ↔ Guarded step ok s actions) ∧
      (Guarded step ok s actions → I (exec step s actions)) from h.1
  induction actions using List.reverseRecOn with
  | nil => exact ⟨iff_of_true guarded_nil guarded_nil, fun _ => hs⟩
  | append_singleton before a ih =>
    obtain ⟨hgo, hI⟩ := ih
    rw [guarded_snoc, guarded_snoc, hgo, exec_snoc]
    refine ⟨and_congr_right fun hg => hiff _ _ (hI hg), ?_⟩
    rintro ⟨hg, ha⟩
    exact hinv _ _ (hI hg) ha

theorem guarded_true : Guarded step (fun _ _ => True) s actions := fun _ _ _ _ => trivial

section TryEach

variable {ε β τ : Type*}

/-- A loop whose body may fail: the state keeps what the completed iterations did. -/
def tryEach (body : τ → β → Except ε τ) : List β → τ → Except ε Unit × τ
  | [], t => (.ok (), t)
  | x :: xs, t => match body t x with
    | .ok t' => tryEach body xs t'
    | .error e => (.error e, t)

/-- What every iteration keeps holds in the end, whether or not the loop runs to its end. -/
theorem tryEach_invariant_mem {body : τ → β → Except ε τ} {P : τ → Prop} {xs : List β}
    (hbody : ∀ t, ∀ x ∈ xs, ∀ t', body t x = .ok t' → P t → P t') {t : τ} (h : P t) :
    P (tryEach body xs t).2 := by
  induction xs generalizing t with
  | nil => exact h
  | cons x xs ih =>
    rw [tryEach]
    split
    · rename_i t' he
      refine ih (fun t y hy => hbody t y (List.mem_cons_of_mem x hy)) ?_
      exact hbody t x List.mem_cons_self t' he h
    · exact h

theorem tryEach_invariant (body : τ → β → Except ε τ) (P : τ → Prop)
    (hbody : ∀ t x t', body t x = .ok t' → P t → P t') (xs : List β) {t : τ} (h : P t) :
    P (tryEach body xs t).2 :=
  tryEach_invariant_mem (fun t x _ => hbody t x) h

/-- A loop that does not fail goes on with the next elements. -/
theorem tryEach_append {body : τ → β → Except ε τ} {xs ys : List β} {t t' : τ}
    (h : tryEach body xs t = (.ok (), t')) :
    tryEach body (xs ++ ys) t = tryEach body ys t' := by
  induction xs generalizing t with
  | nil =>
    cases h
    rfl
  | cons x xs ih =>
    rw [tryEach] at h
    rw [List.cons_append, tryEach]
    cases he : body t x with
    | error e =>
      rw [he] at h
      cases h
    | ok next =>
      rw [he] at h
      exact ih h

/-- A loop whose body never fails runs to its end. -/
theorem tryEach_ok {body : τ → β → Except ε τ} {xs : List β}
    (hbody : ∀ t, ∀ x ∈ xs, ∃ t', body t x = .ok t') (t : τ) :
    (tryEach body xs t).1 = .ok () := by
  induction xs generalizing t with
  | nil => rfl
  | cons x xs ih =>
    obtain ⟨t', ht'⟩ := hbody t x List.mem_cons_self
    rw [tryEach, ht']
    exact ih (fun t y hy => hbody t y (List.mem_cons_of_mem x hy)) t'

/-- A loop whose body never fails is a plain one. -/
theorem tryEach_foldl {body : τ → β → Except ε τ} {next : τ → β → τ} {xs : List β}
    (h : ∀ t, ∀ x ∈ xs, body t x = .ok (next t x)) (t : τ) :
    tryEach body xs t = (.ok (), xs.foldl next t) := by
  induction xs generalizing t with
  | nil => rfl
  | cons x xs ih =>
    rw [tryEach, h t x List.mem_cons_self]
    exact ih (fun t y hy => h t y (List.mem_cons_of_mem x hy)) (next t x)

/-- What relates the ends of every iteration relates the ends of a loop that does not fail. -/
theorem tryEach_rel {body : τ → β → Except ε τ} {R : List β → τ → τ → Prop} (hnil : ∀ t, R [] t t)
    (hcons : ∀ x xs t t' t'', body t x = .ok t' → R xs t' t'' → R (x :: xs) t t'') {xs : List β}
    {t : τ} {u : Unit} (h : (tryEach body xs t).1 = .ok u) : R xs t (tryEach body xs t).2 := by
  induction xs generalizing t with
  | nil => exact hnil t
  | cons x xs ih =>
    rw [tryEach] at h ⊢
    cases he : body t x with
    | error e =>
      rw [he] at h
      cases h
    | ok t' =>
      rw [he] at h
      exact hcons x xs t t' _ he (ih h)

/-- A loop fails with the error of one of its iterations. -/
theorem tryEach_error {body : τ → β → Except ε τ} {xs : List β} {t : τ} {e : ε}
    (h : (tryEach body xs t).1 = .error e) : ∃ t', ∃ x ∈ xs, body t' x = .error e := by
  induction xs generalizing t with
  | nil => cases h
  | cons x xs ih =>
    rw [tryEach] at h
    cases he : body t x with
    | ok t' =>
      rw [he] at h
      obtain ⟨t'', y, hy, herror⟩ := ih h
      exact ⟨t'', y, List.mem_cons_of_mem x hy, herror⟩
    | error e' =>
      rw [he] at h
      cases h
      exact ⟨t, x, List.mem_cons_self, he⟩

/-- A loop whose iterations are actions is a run. -/
theorem tryEach_exec {step : τ → α → τ} {body : τ → β → Except ε τ}
    (hbody : ∀ t x t', body t x = .ok t' → ∃ a, t' = step t a) (xs : List β) (t : τ) :
    ∃ actions, (tryEach body xs t).2 = exec step t actions := by
  induction xs generalizing t with
  | nil => exact ⟨[], rfl⟩
  | cons x xs ih =>
    rw [tryEach]
    split
    · rename_i t' he
      obtain ⟨a, rfl⟩ := hbody t x t' he
      obtain ⟨actions, hrest⟩ := ih (step t a)
      exact ⟨a :: actions, hrest⟩
    · exact ⟨[], rfl⟩

end TryEach
end Sophia.Run
