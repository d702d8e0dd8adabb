import Spreadsheet.Proofs.Store.Affected
import Spreadsheet.Proofs.Walk.Steps

/-!
# The stack of a walk

The stack of a walk is made of frames, one for each open cell: above an open cell lie those of its
references that still wait, and above them the frame of the one that is being followed
(`Walk.Nested`). So the open cells, from the bottom to the top, are a path of references from the
asked cell, and a reference of an open cell is known, waits, or is the next cell of the path. The
frames survive what a step does to a stack: passing over a known cell (`Nested.skip`), taking up a
waiting one (`Nested.take`) and entering one (`Nested.push`).
-/

namespace Spreadsheet

open Relation

namespace Store

/-- The formula at `a` reads `b`, and `b` lies inside the bounds. -/
def Follows (s : Store) (a b : Address) : Prop :=
  s.Reads a b ∧ s.bounds.contains b = true

end Store

namespace Walk

variable {s : Store} {root : Address} {w : Walk} {a b c : Address}

/-! ## Frames -/

/-- An open cell, and those of its references that wait above it in the stack. -/
structure Frame where
  cell : Address
  waiting : List Address

/-- The part of the stack that belongs to an open cell. -/
def Frame.entries (f : Frame) : List Address := f.waiting ++ [f.cell]

/-- The open cells, the last entered first. -/
def path (fs : List Frame) : List Address := fs.map Frame.cell

@[simp] theorem path_cons (f : Frame) (fs : List Frame) : path (f :: fs) = f.cell :: path fs := rfl

theorem downTo_append {cs rest : List Address} (ne : ∀ r ∈ cs, r ≠ a) :
    downTo a (cs ++ rest) = cs ++ downTo a rest := by
  induction cs with
  | nil => rfl
  | cons r cs ih =>
    rw [List.cons_append, downTo, if_neg (ne r List.mem_cons_self),
      ih fun x hx => ne x (List.mem_cons_of_mem _ hx), List.cons_append]

/-- The frames of a walk: each open cell was waiting in the frame below it, the first one being the
asked cell, and a reference of an open cell is known, waits, or is the cell of the frame above. The
top frame has `next` above it if a cell is about to be treated. -/
inductive Nested (s : Store) (w : Walk) (root : Address) : Option Address → List Frame → Prop
  | bottom {next : Option Address} (h : next = some root ∨ next = none ∧ w.Knows s root) :
    Nested s w root next []
  | frame {next : Option Address} {f : Frame} {fs : List Frame}
    (below : Nested s w root (some f.cell) fs)
    (covered : ∀ r, s.Follows f.cell r → w.Knows s r ∨ r ∈ f.waiting ∨ next = some r)
    (above : ∀ r, r ∈ f.waiting ∨ next = some r → s.Follows f.cell r ∧ r ∉ path (f :: fs))
    (new : f.cell ∉ path fs) :
    Nested s w root next (f :: fs)

namespace Nested

variable {next : Option Address} {fs : List Frame}

/-- Knowing more keeps the frames. -/
theorem mono {w' : Walk} (h : Nested s w root next fs) (le : ∀ a, w.Knows s a → w'.Knows s a) :
    Nested s w' root next fs := by
  induction h with
  | bottom h => exact .bottom (h.imp id fun ⟨eq, known⟩ => ⟨eq, le _ known⟩)
  | frame _ covered above new ih =>
    exact .frame ih (fun r hr => (covered r hr).imp (le r) id) above new

/-- The cell that is next is known: nothing is next any more. -/
theorem skip (h : Nested s w root (some c) fs) (known : w.Knows s c) :
    Nested s w root none fs := by
  cases h with
  | bottom h =>
    obtain rfl : c = root := by simpa using h
    exact .bottom (Or.inr ⟨rfl, known⟩)
  | frame below covered above new =>
    refine .frame below (fun r hr => ?_) (fun r hr => above r (hr.imp id (by simp))) new
    rcases covered r hr with hr | hr | hr
    · exact Or.inl hr
    · exact Or.inr (Or.inl hr)
    · exact Or.inl (Option.some.inj hr ▸ known)

/-- The first cell that waits in the top frame is the next one. -/
theorem take {cs : List Address} (h : Nested s w root none (⟨a, c :: cs⟩ :: fs)) :
    Nested s w root (some c) (⟨a, cs⟩ :: fs) := by
  cases h with
  | frame below covered above new =>
    refine .frame below (fun r hr => ?_) (fun r hr => above r (Or.inl ?_)) new
    · rcases covered r hr with hr | hr | hr
      · exact Or.inl hr
      · rcases List.mem_cons.1 hr with rfl | hr
        · exact Or.inr (Or.inr rfl)
        · exact Or.inr (Or.inl hr)
      · cases hr
    · rcases hr with hr | hr
      · exact List.mem_cons_of_mem _ hr
      · exact Option.some.inj hr ▸ List.mem_cons_self

/-- The next cell is entered: its references inside the bounds wait above it. -/
theorem push {cs : List Address} (h : Nested s w root (some c) fs)
    (waiting : ∀ r, r ∈ cs ↔ s.Follows c r) (open_free : ∀ r ∈ cs, r ∉ path (⟨c, cs⟩ :: fs))
    (new : c ∉ path fs) : Nested s w root none (⟨c, cs⟩ :: fs) := by
  refine .frame h (fun r hr => Or.inr (Or.inl ((waiting r).2 hr))) (fun r hr => ?_) new
  have waits : r ∈ cs := hr.resolve_right (by simp)
  exact ⟨(waiting r).1 waits, open_free r waits⟩

/-- The next cell is not open. -/
theorem not_mem_path (h : Nested s w root (some c) fs) : c ∉ path fs := by
  cases h with
  | bottom h => exact List.not_mem_nil
  | frame below covered above new => exact (above c (Or.inr rfl)).2

/-- The path leads from the asked cell to the next one, by steps into cells of the path and into the
next one. -/
theorem chain_next {R : Address → Address → Prop} (h : Nested s w root (some c) fs)
    (step : ∀ x y, y = c ∨ y ∈ path fs → s.Follows x y → R x y) : ReflTransGen R root c := by
  generalize hn : some c = next at h
  induction h generalizing c with
  | bottom h =>
    subst hn
    obtain rfl : c = root := by simpa using h
    exact ReflTransGen.refl
  | frame below covered above new ih =>
    have before := ih (fun x y hy => step x y (Or.inr (List.mem_cons.2 hy))) rfl
    exact before.tail (step _ c (Or.inl rfl) (above c (Or.inr hn.symm)).1)

/-- The path leads from each of its cells to the next one, by such steps. -/
theorem chain_path {R : Address → Address → Prop} (h : Nested s w root (some c) fs)
    (step : ∀ x y, y = c ∨ y ∈ path fs → s.Follows x y → R x y) (ha : a ∈ path fs) :
    TransGen R a c := by
  generalize hn : some c = next at h
  induction h generalizing c with
  | bottom h => cases ha
  | frame below covered above new ih =>
    have last := step _ c (Or.inl rfl) (above c (Or.inr hn.symm)).1
    rcases List.mem_cons.1 ha with rfl | ha
    · exact TransGen.single last
    · exact (ih (fun x y hy => step x y (Or.inr (List.mem_cons.2 hy))) ha rfl).tail last

/-- The asked cell reaches the next one. -/
theorem reaches_next (h : Nested s w root (some c) fs) : ReflTransGen s.Follows root c :=
  h.chain_next fun _ _ _ follows => follows

/-- Each cell of the path reaches the next one. -/
theorem path_reaches (h : Nested s w root (some c) fs) (ha : a ∈ path fs) :
    TransGen s.Follows a c :=
  h.chain_path (fun _ _ _ follows => follows) ha

/-- The part of the stack down to a cell of the path: the waiting cells are not in the path, so the
way down passes them. -/
theorem downTo_frame {f : Frame} (h : Nested s w root next (f :: fs)) (ha : a ∈ path (f :: fs)) :
    downTo a ((f :: fs).flatMap Frame.entries) = f.waiting ++
      if f.cell = a then [f.cell] else f.cell :: downTo a (fs.flatMap Frame.entries) := by
  have waits_ne : ∀ r ∈ f.waiting, r ≠ a := by
    cases h with
    | frame below covered above new => exact fun r hr eq => (above r (Or.inl hr)).2 (eq ▸ ha)
  rw [List.flatMap_cons, Frame.entries, List.append_assoc, downTo_append waits_ne,
    List.singleton_append, downTo]

end Nested

end Walk

end Spreadsheet
