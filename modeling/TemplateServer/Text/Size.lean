/-!
The two measures of a text. Offsets count the bytes of its UTF-8 form; columns count the code
units of its UTF-16 form.
-/

namespace TemplateServer.Text

def bytes : List Char → Nat
  | [] => 0
  | c :: rest => c.utf8Size + bytes rest

/-- Number of UTF-16 code units of a character: two beyond the basic plane. -/
def charUnits (c : Char) : Nat :=
  if c.toNat < 0x10000 then 1 else 2

def units : List Char → Nat
  | [] => 0
  | c :: rest => charUnits c + units rest

@[simp]
theorem bytes_nil : bytes [] = 0 := rfl

@[simp]
theorem bytes_cons (c : Char) (rest : List Char) :
    bytes (c :: rest) = c.utf8Size + bytes rest := rfl

@[simp]
theorem units_nil : units [] = 0 := rfl

@[simp]
theorem units_cons (c : Char) (rest : List Char) :
    units (c :: rest) = charUnits c + units rest := rfl

@[simp]
theorem bytes_append (left right : List Char) :
    bytes (left ++ right) = bytes left + bytes right := by
  induction left with
  | nil => simp
  | cons c rest ih => simp [ih, Nat.add_assoc]

@[simp]
theorem units_append (left right : List Char) :
    units (left ++ right) = units left + units right := by
  induction left with
  | nil => simp
  | cons c rest ih => simp [ih, Nat.add_assoc]

end TemplateServer.Text
