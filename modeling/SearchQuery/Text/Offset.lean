/-!
Positions in a text. A position is counted in bytes of the UTF-8 form, and
only some byte positions fall between two characters.
-/

namespace SearchQuery.Text

def byteLength (cs : List Char) : Nat := cs.foldr (fun c size => c.utf8Size + size) 0

/-- The number of characters before a byte offset. There is none when the offset
is inside a character or past the end. -/
def column? : List Char → Nat → Option Nat
  | _, 0 => some 0
  | [], _ + 1 => none
  | c :: cs, offset + 1 =>
      if c.utf8Size ≤ offset + 1 then
        (column? cs (offset + 1 - c.utf8Size)).map (· + 1)
      else none

@[simp] theorem byteLength_nil : byteLength [] = 0 := rfl

@[simp] theorem byteLength_cons (c : Char) (cs : List Char) :
    byteLength (c :: cs) = c.utf8Size + byteLength cs := rfl

@[simp] theorem byteLength_append (cs ds : List Char) :
    byteLength (cs ++ ds) = byteLength cs + byteLength ds := by
  induction cs with
  | nil => simp
  | cons c cs ih => simp [ih, Nat.add_assoc]

theorem byteLength_ofList (cs : List Char) :
    byteLength cs = (String.ofList cs).utf8ByteSize := by
  induction cs with
  | nil => simp
  | cons c cs ih =>
      have parts : String.ofList (c :: cs) = String.ofList [c] ++ String.ofList cs := by
        rw [← String.ofList_append]
        rfl
      have single : (String.ofList [c]).utf8ByteSize = c.utf8Size := by
        rw [← String.singleton_eq_ofList]
        simp only [String.utf8ByteSize_singleton]
      rw [byteLength_cons, ih, parts, String.utf8ByteSize_append, single]

@[simp] theorem byteLength_toList (s : String) : byteLength s.toList = s.utf8ByteSize := by
  rw [byteLength_ofList, String.ofList_toList]

/-- The boundaries are the byte lengths of what stands before them. -/
theorem column_byteLength (before after : List Char) :
    column? (before ++ after) (byteLength before) = some before.length := by
  induction before with
  | nil => simp [column?]
  | cons c cs ih =>
      have positive := c.utf8Size_pos
      obtain ⟨size, same⟩ : ∃ size, byteLength (c :: cs) = size + 1 :=
        ⟨c.utf8Size + byteLength cs - 1, by simp; omega⟩
      rw [same, List.cons_append, column?]
      have whole : c.utf8Size + byteLength cs = size + 1 := by simpa using same
      have rest : size + 1 - c.utf8Size = byteLength cs := by omega
      rw [if_pos (by omega), rest, ih]
      simp

end SearchQuery.Text
