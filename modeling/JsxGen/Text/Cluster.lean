import JsxGen.Text.ClusterTable

/-!
Extended grapheme clusters: the characters a reader sees, each a list of code points. Conjuncts of
Indic consonants are left apart; none of them has a case, so words do not depend on it.
-/

namespace JsxGen.Text

inductive BreakClass where
  | cr | lf | control | extend | joiner | regional | leading | spacing
  | hangulL | hangulV | hangulT | hangulLV | hangulLVT | other
  deriving DecidableEq

def inRanges (ranges : List (Nat × Nat)) (code : Nat) : Bool :=
  ranges.any fun (first, last) => first ≤ code && code ≤ last

/-- Precomposed Hangul syllables are divided arithmetically: every 28th one has no final. The vowels
of Kirat Rai join as those of Hangul do. -/
def hangulClass (code : Nat) : Option BreakClass :=
  if (0x1100 ≤ code && code ≤ 0x115F) || (0xA960 ≤ code && code ≤ 0xA97C) then some .hangulL
  else if (0x1160 ≤ code && code ≤ 0x11A7) || (0xD7B0 ≤ code && code ≤ 0xD7C6) ||
    code = 0x16D63 || (0x16D67 ≤ code && code ≤ 0x16D6A) then some .hangulV
  else if (0x11A8 ≤ code && code ≤ 0x11FF) || (0xD7CB ≤ code && code ≤ 0xD7FB) then some .hangulT
  else if 0xAC00 ≤ code && code ≤ 0xD7A3 then
    some (if (code - 0xAC00) % 28 = 0 then .hangulLV else .hangulLVT)
  else none

def breakClass (c : Char) : BreakClass :=
  let code := c.toNat
  if code = 0xD then .cr
  else if code = 0xA then .lf
  else if 0x20 ≤ code && code < 0x7F then .other
  else if code = 0x200D then .joiner
  else if inRanges controlRanges code then .control
  else if inRanges extendRanges code then .extend
  else if inRanges leadingRanges code then .leading
  else if inRanges spacingRanges code then .spacing
  else if 0x1F1E6 ≤ code && code ≤ 0x1F1FF then .regional
  else (hangulClass code).getD .other

def isPictograph (c : Char) : Bool :=
  inRanges pictographRanges c.toNat

/-- Whether `c` continues a cluster that ends in `last`, with `before` (latest first) ahead of it. -/
def continues (last : Char) (before : List Char) (c : Char) : Bool :=
  match breakClass last, breakClass c with
  | .cr, .lf => true
  | .cr, _ | .lf, _ | .control, _ => false
  | _, .cr | _, .lf | _, .control => false
  | .hangulL, .hangulL | .hangulL, .hangulV | .hangulL, .hangulLV | .hangulL, .hangulLVT => true
  | .hangulLV, .hangulV | .hangulLV, .hangulT | .hangulV, .hangulV | .hangulV, .hangulT => true
  | .hangulLVT, .hangulT | .hangulT, .hangulT => true
  | _, .extend | _, .joiner | _, .spacing => true
  | .leading, _ => true
  | .joiner, _ =>
    isPictograph c &&
      ((before.dropWhile (breakClass · = .extend)).head?.map isPictograph).getD false
  | .regional, .regional =>
    (before.takeWhile (breakClass · = .regional)).length % 2 = 0
  | _, _ => false

/-- The clusters of a text; `cluster` is the one being read, latest character first. -/
def clustersFrom (cluster : List Char) : List Char → List (List Char)
  | [] => if cluster.isEmpty then [] else [cluster.reverse]
  | c :: cs =>
    match cluster with
    | [] => clustersFrom [c] cs
    | last :: before =>
      if continues last before c then clustersFrom (c :: cluster) cs
      else cluster.reverse :: clustersFrom [c] cs

def clusters (s : String) : List (List Char) :=
  clustersFrom [] s.toList

end JsxGen.Text
