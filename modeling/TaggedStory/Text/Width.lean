/-!
Full-width forms. The forms of the printable ASCII characters stand at a constant distance from
them, and the ideographic space stands for a space.
-/
set_option autoImplicit false

namespace TaggedStory.Text

def narrowChar (c : Char) : Char :=
  if 0xff01 ≤ c.toNat ∧ c.toNat ≤ 0xff5e then Char.ofNat (c.toNat - 0xfee0)
  else if c.toNat = 0x3000 then ' '
  else c

def narrow (text : List Char) : List Char :=
  text.map narrowChar

def narrowed (text : String) : String :=
  String.ofList (narrow text.toList)

end TaggedStory.Text
