import WasmTree.Location

/-!
Decoders of bytes. A decoder fails or hands back a value and a cursor that it reached by reading on;
the latter is part of its type, so that loops over decoders end and offsets grow.
-/

namespace WasmTree.Binary

structure Cursor where
  position : Nat
  rest : List UInt8

namespace Cursor

def advance (c : Cursor) (n : Nat) : Cursor := ⟨c.position + n, c.rest.drop n⟩

def Reaches (c d : Cursor) : Prop := ∃ n, d = c.advance n

theorem Reaches.refl (c : Cursor) : c.Reaches c := ⟨0, rfl⟩

theorem Reaches.trans {c d e : Cursor} : c.Reaches d → d.Reaches e → c.Reaches e := by
  rintro ⟨n, rfl⟩ ⟨k, rfl⟩
  exact ⟨n + k, by simp [advance, Nat.add_assoc]⟩

theorem Reaches.rest_length {c d : Cursor} (h : c.Reaches d) : d.rest.length ≤ c.rest.length := by
  obtain ⟨n, rfl⟩ := h
  simp [advance]

theorem Reaches.position {c d : Cursor} (h : c.Reaches d) : c.position ≤ d.position := by
  obtain ⟨n, rfl⟩ := h
  simp [advance]

theorem reaches_tail (p : Nat) (b : UInt8) (bs : List UInt8) :
    (⟨p, b :: bs⟩ : Cursor).Reaches ⟨p + 1, bs⟩ := ⟨1, rfl⟩

end Cursor

def Step (α : Type) (c : Cursor) : Type := Option { r : α × Cursor // c.Reaches r.2 }

def Decoder (α : Type) : Type := (c : Cursor) → Step α c

namespace Decoder

variable {α β : Type}

instance : Monad Decoder where
  pure a c := some ⟨(a, c), .refl c⟩
  bind x f c :=
    match x c with
    | none => none
    | some ⟨(a, d), h⟩ =>
      match f a d with
      | none => none
      | some ⟨r, h'⟩ => some ⟨r, h.trans h'⟩

def fail : Decoder α := fun _ => none

def ofOption : Option α → Decoder α
  | some a => pure a
  | none => fail

def require (p : Bool) : Decoder Unit := if p then pure () else fail

theorem bind_eq_some {d : Decoder α} {f : α → Decoder β} {c : Cursor} {r} (h : (d >>= f) c = some r) :
    ∃ a, d c = some a ∧ ∃ b, f a.1.1 a.1.2 = some b ∧ b.1 = r.1 := by
  simp only [bind] at h
  split at h
  · cases h
  · rename_i a c' hc hd
    split at h
    · cases h
    · rename_i b hb hf
      cases h
      exact ⟨_, hd, _, hf, rfl⟩

theorem require_eq_some {p : Bool} {c : Cursor} {r} (h : require p c = some r) : p = true := by
  cases p with
  | false => cases h
  | true => rfl

def position : Decoder Nat := fun c => some ⟨(c.position, c), .refl c⟩

def byte : Decoder UInt8 := fun c =>
  match c with
  | ⟨_, []⟩ => none
  | ⟨p, b :: bs⟩ => some ⟨(b, ⟨p + 1, bs⟩), 1, rfl⟩

/-- The next byte, which stays unread. -/
def peek : Decoder UInt8 := fun c =>
  match c.rest with
  | [] => none
  | b :: _ => some ⟨(b, c), .refl c⟩

/-- The next `n` bytes with their place, and nothing unless all are there. -/
def slice (n : Nat) : Decoder Cursor := fun c =>
  let taken := c.rest.take n
  if taken.length = n then some ⟨(⟨c.position, taken⟩, c.advance n), n, rfl⟩ else none

/-- What `d` finds at the cursor, without reading on. -/
def ahead (d : Decoder α) : Decoder α := fun c => (d c).map fun r => ⟨(r.1.1, c), .refl c⟩

/-- Runs a decoder `n` times, from a cursor that was reached from `origin`. -/
def repeatFrom (d : Decoder α) (origin : Cursor) :
    Nat → (c : Cursor) → origin.Reaches c → Array α → Step (Array α) origin
  | 0, c, h, done => some ⟨(done, c), h⟩
  | n + 1, c, h, done =>
    match d c with
    | none => none
    | some ⟨(a, c'), h'⟩ => repeatFrom d origin n c' (h.trans h') (done.push a)

def replicate (n : Nat) (d : Decoder α) : Decoder (List α) := fun c =>
  (repeatFrom d c n c (.refl c) #[]).map fun r => ⟨(r.1.1.toList, r.1.2), r.2⟩

def discard (n : Nat) (d : Decoder α) : Decoder Unit := do let _ ← d.replicate n

/-- Runs a decoder until one of its values satisfies `last`. It is given the first byte it reads, so
that every run reads something. -/
def untilFrom (d : UInt8 → Decoder α) (last : α → Bool) (origin : Cursor) :
    (c : Cursor) → origin.Reaches c → Array (Located α) → Step (Array (Located α)) origin
  | ⟨_, []⟩, _, _ => none
  | ⟨p, b :: bs⟩, h, done =>
    match d b ⟨p + 1, bs⟩ with
    | none => none
    | some ⟨(a, c), h'⟩ =>
      have : c.rest.length ≤ bs.length := h'.rest_length
      have h := (h.trans (Cursor.reaches_tail p b bs)).trans h'
      bif last a then some ⟨(done.push ⟨p, a⟩, c), h⟩
      else untilFrom d last origin c h (done.push ⟨p, a⟩)
termination_by c => c.rest.length

def upTo (last : α → Bool) (d : UInt8 → Decoder α) : Decoder (List (Located α)) := fun c =>
  (untilFrom d last c c (.refl c) #[]).map fun r => ⟨(r.1.1.toList, r.1.2), r.2⟩

end Decoder

end WasmTree.Binary
