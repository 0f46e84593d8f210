import VolumePlugin.Text.Mark

/-! The directions in which characters are written, as far as they matter for whether a name reads
the same in any surroundings. -/

namespace VolumePlugin.Text

inductive Direction where
  | leftToRight
  | rightToLeft
  /-- A digit of a script that is written from right to left. -/
  | arabicNumber
  | europeanNumber
  /-- A mark, which takes the direction of the character before it. -/
  | mark
  | neutral
  deriving DecidableEq, Repr

/-- The characters of scripts from right to left and the digits, with the number of their
direction. -/
def directionText : String :=
  "30-39:3 b2-b3:3 b9:3 5be:1 5c0:1 5c3:1 5c6:1 5d0-5f4:1 600-605:2 608:1 60b:1 60d:1 61b-64a:1
  660-669:2 66b-66c:2 66d-66f:1 671-6d5:1 6dd:2 6e5-6e6:1 6ee-6ef:1 6f0-6f9:3 6fa-710:1 712-72f:1
  74d-7a5:1 7b1-7ea:1 7f4-7f5:1 7fa:1 7fe-815:1 81a:1 824:1 828:1 830-858:1 85e-88f:1 890-891:2
  8a0-8c9:1 8e2:2 200f:1 2070:3 2074-2079:3 2080-2089:3 2488-249b:3 fb1d:1 fb1f-fb28:1 fb2a-fbc2:1
  fbd3-fd3d:1 fd50-fd8f:1 fd92-fdc7:1 fdf0-fdfc:1 fe70-fefc:1 ff10-ff19:3 102e1-102fb:3
  10800-1091b:1 10920-10a00:1 10a10-10a35:1 10a40-10ae4:1 10aeb-10b35:1 10b40-10d23:1
  10d30-10d39:2 10d40-10d65:1 10d6e-10d8f:1 10e60-10e7e:2 10e80-10ea9:1 10ead-10ed8:1
  10f00-10f45:1 10f51-10f81:1 10f86-10ff6:1 1ccf0-1ccf9:3 1d7ce-1d7ff:3 1e800-1e8cf:1
  1e900-1e943:1 1e94b-1eebb:1 1f100-1f10a:3 1fbf0-1fbf9:3"

def directions : Array Table.Entry := Table.ofText directionText

def direction (c : Char) : Direction :=
  match (Table.find? directions c.toNat).bind (·.values.head?) with
  | some 1 => .rightToLeft
  | some 2 => .arabicNumber
  | some 3 => .europeanNumber
  | _ =>
    if isMark c then .mark
    else if c.toNat < 0x80 ∧ !c.isAlpha then .neutral
    else .leftToRight

end VolumePlugin.Text
