import GridTable.Json.Value

/-! Nested lists of one form.
A block is a nested list whose parts on each level have one length; its entries are listed in
row-major order. A value that is no list is a block without a level.
-/

namespace GridTable

structure Block where
  /-- The lengths, the outermost first. -/
  shape : List Nat
  entries : List Json

namespace Block

/-- The block made of blocks of one form. -/
def stack? : List Block → Option Block
  | [] => some ⟨[0], []⟩
  | first :: rest =>
      if rest.all fun part => part.shape == first.shape
        then some ⟨(rest.length + 1) :: first.shape, (first :: rest).flatMap Block.entries⟩
        else none

mutual

/-- The block that a value is; none if parts of it differ in form. -/
def ofJson? : Json → Option Block
  | .arr items => (ofItems? items).bind stack?
  | entry => some ⟨[], [entry]⟩

def ofItems? : List Json → Option (List Block)
  | [] => some []
  | item :: rest =>
      match ofJson? item, ofItems? rest with
      | some part, some parts => some (part :: parts)
      | _, _ => none

end

end Block

end GridTable
