import Mathlib.Data.List.Basic

/-! # Texts of Named Fields

    A text that lists fields in a row: a name, a mark, a value, and a blank before the next
    name. Over any alphabet with two such marks:

    * `Marks.render`, `Marks.append`: the text of a list of fields, and how it grows by one,
    * `Marks.parse`: the fields of a text,
    * `parse_render`: they come back, where no name or value holds a mark.
-/

namespace Fields

/-- A name and a value. -/
abbrev NamedField (α : Type) : Type := List α × List α

/-- What stands between a name and its value, and between two fields. -/
structure Marks (α : Type) where
  assign : α
  blank : α

namespace Marks
variable {α : Type} (m : Marks α)

/-- The text of one field. -/
def field (f : NamedField α) : List α := f.1 ++ m.assign :: f.2

def render (fields : List (NamedField α)) : List α := [m.blank].intercalate (fields.map m.field)

/-- A text with one more field behind what it holds. -/
def append (text : List α) (f : NamedField α) : List α :=
  if text = [] then m.field f else text ++ m.blank :: m.field f

variable [DecidableEq α]

/-- The name ends at the first mark. -/
def split (part : List α) : NamedField α :=
  (part.takeWhile (· ≠ m.assign), (part.dropWhile (· ≠ m.assign)).tail)

def parse (text : List α) : List (NamedField α) :=
  if text = [] then [] else (text.splitOn m.blank).map m.split

/-- The marks of the text are nowhere in it but between its parts. -/
structure Plain (f : NamedField α) : Prop where
  assign : m.assign ∉ f.1
  name : m.blank ∉ f.1
  value : m.blank ∉ f.2

end Marks

variable {α : Type} {m : Marks α} {f g : NamedField α} {fields fields' : List (NamedField α)}

theorem field_ne_nil (f : NamedField α) : m.field f ≠ [] := by
  simp [Marks.field]

theorem render_cons_ne_nil : m.render (f :: fields) ≠ [] := by
  cases fields <;> simp [Marks.render, field_ne_nil]

theorem render_cons_cons :
    m.render (f :: g :: fields) = m.field f ++ m.blank :: m.render (g :: fields) := by
  simp [Marks.render]

/-- **A text grows by a field at a time.** -/
theorem append_render (fields : List (NamedField α)) (f : NamedField α) :
    m.append (m.render fields) f = m.render (fields ++ [f]) := by
  induction fields with
  | nil => simp [Marks.append, Marks.render]
  | cons g fields ih =>
    rw [Marks.append, if_neg render_cons_ne_nil]
    cases fields with
    | nil => simp [Marks.render]
    | cons g' fields =>
      rw [Marks.append, if_neg render_cons_ne_nil] at ih
      rw [List.cons_append, List.cons_append, render_cons_cons, render_cons_cons, List.append_assoc,
        List.cons_append, ih, List.cons_append]

/-- Two texts in a row, with a blank between them. -/
theorem render_append (f g : NamedField α) (fields fields' : List (NamedField α)) :
    m.render (f :: fields ++ g :: fields') =
      m.render (f :: fields) ++ m.blank :: m.render (g :: fields') := by
  induction fields generalizing f with
  | nil => simp [Marks.render]
  | cons f' fields ih =>
    rw [List.cons_append, List.cons_append, render_cons_cons, render_cons_cons, List.append_assoc,
      List.cons_append, ← ih, List.cons_append]

variable [DecidableEq α]

theorem split_field (h : m.Plain f) : m.split (m.field f) = f := by
  have hname : ∀ c ∈ f.1, decide (c ≠ m.assign) = true := by
    intro c hc
    apply decide_eq_true
    intro heq
    exact h.assign (heq ▸ hc)
  unfold Marks.split Marks.field
  rw [List.takeWhile_append_of_pos hname, List.dropWhile_append_of_pos hname]
  simp

/-- **What is rendered reads back.** -/
theorem parse_render (h : ∀ f ∈ fields, m.Plain f) (hmarks : m.assign ≠ m.blank) :
    m.parse (m.render fields) = fields := by
  cases fields with
  | nil => rfl
  | cons f fields =>
    rw [Marks.parse, if_neg render_cons_ne_nil, Marks.render, List.splitOn_intercalate]
    · have hsplit : (f :: fields).map (m.split ∘ m.field) = (f :: fields).map id :=
        List.map_congr_left fun g hg => split_field (h g hg)
      rw [List.map_map, hsplit, List.map_id]
    · intro part hpart
      obtain ⟨g, hg, rfl⟩ := List.mem_map.mp hpart
      have hplain := h g hg
      simp [Marks.field, hplain.name, hplain.value, hmarks.symm]
    · simp

/-- Two texts of plain fields are equal only where the fields are. -/
theorem render_inj (h : ∀ f ∈ fields, m.Plain f) (h' : ∀ f ∈ fields', m.Plain f)
    (hmarks : m.assign ≠ m.blank) : m.render fields = m.render fields' ↔ fields = fields' := by
  constructor
  · intro heq
    rw [← parse_render h hmarks, heq, parse_render h' hmarks]
  · intro heq
    rw [heq]

end Fields
