import Mathlib.Data.List.Basic

/-!
Values written into another type and read back from it. A codec says which
values survive: those it fits, and no others. Fields of a record are read by
name, required or with a default.
-/

namespace DispenserHub.Codecs

variable {α β γ κ : Type*}

/-- A way to write values and to read them back. It fits the values that are
    read back as they were. -/
structure Codec (α β : Type*) where
  write : α → β
  read : β → Option α
  Fits : α → Prop
  reads_iff : ∀ a, read (write a) = some a ↔ Fits a

theorem Codec.reads (c : Codec α β) {a : α} (fits : c.Fits a) : c.read (c.write a) = some a :=
  (c.reads_iff a).mpr fits

def exact (write : α → β) (read : β → Option α) (reads : ∀ a, read (write a) = some a) : Codec α β where
  write := write
  read := read
  Fits _ := True
  reads_iff a := by simp [reads a]

/-- The same values, under a tag. -/
def Codec.tagged (c : Codec α β) (tag : β → γ) (untag : γ → Option β) (untags : ∀ b, untag (tag b) = some b) :
    Codec α γ where
  write a := tag (c.write a)
  read text := (untag text).bind c.read
  Fits := c.Fits
  reads_iff a := by simp [untags, c.reads_iff]

/-- A list survives when all its entries do. -/
def Codec.list (c : Codec α β) : Codec (List α) (List β) where
  write l := l.map c.write
  read l := l.mapM c.read
  Fits l := ∀ a ∈ l, c.Fits a
  reads_iff l := by
    induction l with
    | nil => simp
    | cons a rest ih =>
      simp only [List.map_cons, List.mapM_cons, Option.bind_eq_bind, Option.pure_def, List.forall_mem_cons]
      rw [← ih, ← c.reads_iff]
      cases c.read (c.write a) <;> cases (rest.map c.write).mapM c.read <;> simp

/-- A value or its absence, which is written as `null`. -/
def Codec.optional (c : Codec α β) (null : β) (is_null : β → Bool) (null_is : is_null null = true)
    (solid : ∀ b, is_null b = true → c.read b = none) : Codec (Option α) β where
  write
    | none => null
    | some a => c.write a
  read b := if is_null b then some none else (c.read b).map some
  Fits o := ∀ a, o = some a → c.Fits a
  reads_iff o := by
    cases o with
    | none => simp [null_is]
    | some a =>
      simp only [Option.some.injEq, forall_eq']
      rw [← c.reads_iff]
      by_cases absent : is_null (c.write a) = true
      · simp [absent, solid _ absent]
      · simp [absent]

section
variable [BEq κ] (c : Codec α β) (name : κ) (fields : List (κ × β))

def Codec.required : Option α := (fields.lookup name).bind c.read

def Codec.defaulted (default : α) : Option α :=
  match fields.lookup name with
  | none => some default
  | some text => c.read text

end

end DispenserHub.Codecs
