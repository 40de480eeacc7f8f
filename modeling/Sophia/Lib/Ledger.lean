import Mathlib.Data.List.Nodup
import Mathlib.Data.List.Perm.Basic
import Mathlib.Data.Set.Insert

/-! Exactly-once accounting: whatever was begun is pending and unanswered, or answered once. -/
namespace Sophia

variable {ι μ : Type*}

/-- `answers` lists what was answered to each request, `verdict` what it should be. -/
structure Ledger (begun pending : Set ι) (verdict : ι → μ) (answers : ι → List μ) : Prop where
  pending_begun : ∀ t ∈ pending, t ∈ begun
  unanswered : ∀ t, t ∈ pending ∨ t ∉ begun → answers t = []
  settled : ∀ t ∈ begun, t ∉ pending → answers t = [verdict t]

namespace Ledger

variable {begun pending pending' : Set ι} {verdict verdict' : ι → μ} {answers answers' : ι → List μ}
  {t : ι}

theorem congr (h : Ledger begun pending verdict answers) (hp : ∀ k, k ∈ pending' ↔ k ∈ pending)
    (ha : ∀ k, answers' k = answers k) : Ledger begun pending' verdict answers' where
  pending_begun := fun k hk => h.pending_begun k ((hp k).mp hk)
  unanswered := by
    intro k hk
    rw [ha]
    exact h.unanswered k (hk.imp_left (hp k).mp)
  settled := by
    intro k hb hk
    rw [ha]
    exact h.settled k hb (mt (hp k).mpr hk)

theorem begin (h : Ledger begun pending verdict answers) (ht : t ∉ begun) :
    Ledger (insert t begun) (insert t pending) verdict answers where
  pending_begun := by
    intro k hk
    exact hk.imp_right (h.pending_begun k)
  unanswered := by
    intro k hk
    by_cases hkt : k = t
    · exact h.unanswered k (Or.inr (hkt ▸ ht))
    · refine h.unanswered k ?_
      simpa [hkt] using hk
  settled := by
    intro k hb hk
    have hkt : k ≠ t := fun he => hk (Or.inl he)
    exact h.settled k (hb.resolve_left hkt) fun hp => hk (Or.inr hp)

/-- One pending request is answered with its verdict; nothing else changes. -/
theorem settle (h : Ledger begun pending verdict answers) (ht : t ∈ pending)
    (hp : ∀ k, k ∈ pending' ↔ k ∈ pending ∧ k ≠ t)
    (hanswer : answers' t = answers t ++ [verdict' t])
    (hother : ∀ k, k ≠ t → answers' k = answers k ∧ verdict' k = verdict k) :
    Ledger begun pending' verdict' answers' where
  pending_begun := fun k hk => h.pending_begun k ((hp k).mp hk).1
  unanswered := by
    intro k hk
    have hkt : k ≠ t := by
      rintro rfl
      rcases hk with hk | hk
      · exact ((hp k).mp hk).2 rfl
      · exact hk (h.pending_begun k ht)
    rw [(hother k hkt).1]
    exact h.unanswered k (hk.imp_left fun hk => ((hp k).mp hk).1)
  settled := by
    intro k hb hk
    by_cases hkt : k = t
    · subst hkt
      rw [hanswer, h.unanswered k (Or.inl ht)]
      rfl
    · rw [(hother k hkt).1, (hother k hkt).2]
      exact h.settled k hb fun hm => hk ((hp k).mpr ⟨hm, hkt⟩)

end Ledger
end Sophia

/-! Custody of objects: each object made is gone or held, and never twice. -/
namespace Sophia

variable {α : Type*}

structure Custody (made gone held : List α) : Prop where
  nodup : made.Nodup
  balance : (gone ++ held).Perm made

namespace Custody

variable {made gone held new left held' : List α} {x : α}

theorem nil : Custody ([] : List α) [] [] := ⟨List.nodup_nil, List.Perm.nil⟩

/-- One operation: the objects held before and those it makes are held afterwards, or gone. -/
theorem move (h : Custody made gone held) (hnew : (made ++ new).Nodup)
    (hmove : (left ++ held').Perm (held ++ new)) :
    Custody (made ++ new) (gone ++ left) held' := by
  have hall : (gone ++ (left ++ held')).Perm (gone ++ (held ++ new)) := hmove.append_left gone
  rw [← List.append_assoc, ← List.append_assoc] at hall
  exact ⟨hnew, hall.trans (h.balance.append_right new)⟩

theorem mem_iff (h : Custody made gone held) : x ∈ made ↔ x ∈ gone ∨ x ∈ held := by
  rw [← h.balance.mem_iff, List.mem_append]

theorem not_held_of_gone (h : Custody made gone held) (hgone : x ∈ gone) : x ∉ held := by
  have hnodup := h.balance.nodup_iff.mpr h.nodup
  exact List.disjoint_of_nodup_append hnodup hgone

/-- What is made is gone once and not held, or held once and not gone. -/
theorem once [DecidableEq α] (h : Custody made gone held) (hx : x ∈ made) :
    gone.count x + held.count x = 1 := by
  rw [← List.count_append, h.balance.count_eq]
  exact List.count_eq_one_of_mem h.nodup hx

end Custody
end Sophia
