import Mathlib.Order.Basic

/-!
Inputs that follow a value which is stored elsewhere.

* `Draft` is an input with a draft over a shown value. A shown value that is new replaces the draft
  (`receive`), but not while the input is dragged (`drag`, `drop`).
* `Draft.Follows` is the invariant: unless it is dragged, the draft stands for what is stored, or it
  has come from the shown value. There is one rule for each operation.
* `Draft.Follows.reads_eq`: hence the draft stands for what is stored as soon as the shown value
  does, however many shown values were out of date in between.
-/

/-- An input with a draft, and the shown value that its draft has last seen. -/
structure Draft (α β : Type*) where
  draft : α
  seen : β
  dragging : Bool

namespace Draft

section

variable {α β : Type*} [DecidableEq β] (present : β → α)

/-- The input when it is first shown. -/
def mount (b : β) : Draft α β := ⟨present b, b, false⟩

/-- A shown value arrives. If it is new, it replaces a draft that is not dragged. -/
def receive (f : Draft α β) (b : β) : Draft α β :=
  { f with
    draft := if b = f.seen ∨ f.dragging = true then f.draft else present b
    seen := b }

end

section

variable {α β : Type*}

/-- The input is dragged to a value. -/
def drag (f : Draft α β) (a : α) : Draft α β := { f with draft := a, dragging := true }

/-- The input is let go of at a value. -/
def drop (f : Draft α β) (a : α) : Draft α β := { f with draft := a, dragging := false }

/-- The draft is set from elsewhere. -/
def put (f : Draft α β) (a : α) : Draft α β := { f with draft := a }

end

/-! ### What is kept -/

variable {α β γ : Type*} {present : β → α} {reads : α → Option γ} {f : Draft α β} {c d : γ} {a : α}

/-- Unless it is dragged, the draft stands for what is stored, or has come from the shown value. -/
def Follows (present : β → α) (reads : α → Option γ) (f : Draft α β) (c : γ) : Prop :=
  f.dragging = true ∨ reads f.draft = some c ∨ f.draft = present f.seen

lemma follows_mount (b : β) : Follows present reads (mount present b) c := .inr (.inr rfl)

lemma Follows.receive [DecidableEq β] (h : Follows present reads f c) (b : β) :
    Follows present reads (f.receive present b) c := by
  rcases h with hdrag | hrest
  · exact .inl hdrag
  · rw [Follows, Draft.receive]
    by_cases hb : b = f.seen
    · subst hb
      rw [if_pos (.inl rfl)]
      exact .inr hrest
    · cases hdrag : f.dragging with
      | true => exact .inl rfl
      | false => exact .inr (.inr (if_neg fun h => h.elim hb (by simp)))

lemma follows_drag : Follows present reads (f.drag a) c := .inl rfl

/-- What is written when the input is let go of, is its draft. -/
lemma follows_drop (h : reads a = some c) : Follows present reads (f.drop a) c := .inr (.inl h)

lemma follows_put (h : reads a = some c) : Follows present reads (f.put a) c := .inr (.inl h)

/-- Another input may write what this draft stands for. -/
lemma follows_of_reads (h : reads f.draft = some c) : Follows present reads f c := .inr (.inl h)

/-- Anything may be written while the draft is dragged, or shows what it has seen. -/
lemma follows_of_settled (h : f.dragging = true ∨ f.draft = present f.seen) :
    Follows present reads f c := h.imp_right .inr

/-- Once the shown value stands for what is stored, so does the draft. -/
theorem Follows.reads_eq (h : Follows present reads f c) (hdrag : f.dragging = false)
    (hseen : reads (present f.seen) = some c) : reads f.draft = some c := by
  rcases h with hdrag' | hreads | hdraft
  · rw [hdrag] at hdrag'
    cases hdrag'
  · exact hreads
  · rw [hdraft, hseen]

end Draft
