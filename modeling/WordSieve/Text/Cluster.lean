import WordSieve.Text.ClusterTable

/-!
# Grapheme clusters

A cell of a terminal holds what a reader takes for one character, which may be several code points:
a letter with its marks, a syllable, a flag, a family. The text is cut into such clusters by the
rules of the Unicode standard for extended grapheme clusters. Whether there is a cut before a
character depends on it and on a summary of the cluster it would join.
-/

set_option autoImplicit false

namespace WordSieve.Text

/-- What a character is to the rules of cutting. -/
inductive ClusterClass where
  | carriageReturn
  | lineFeed
  | control
  | extend
  | joiner
  | regional
  | opener
  | spacing
  | leading
  | vowel
  | trailing
  | openSyllable
  | closedSyllable
  | other
  deriving DecidableEq, Repr

/-- Whether the code point is a whole Hangul syllable. -/
def isHangulSyllable (n : Nat) : Bool :=
  0xAC00 ≤ n && n ≤ 0xD7A3

/-- The class of a character. -/
def clusterClass (c : Char) : ClusterClass :=
  if c = '\r' then .carriageReturn
  else if c = '\n' then .lineFeed
  else if c = '\u200d' then .joiner
  else if ' ' ≤ c ∧ c ≤ '~' then .other
  else if graphemeExtend.has c || emojiModifier.has c then .extend
  else if clusterControl.has c then .control
  else if regionalIndicator.has c then .regional
  else if clusterPrepend.has c then .opener
  else if clusterSpacing.has c then .spacing
  else if leadingJamo.has c then .leading
  else if vowelJamo.has c then .vowel
  else if trailingJamo.has c then .trailing
  else if isHangulSyllable c.toNat then
    if (c.toNat - 0xAC00) % 28 = 0 then .openSyllable else .closedSyllable
  else .other

/-- What the rules remember of a cluster: the class of its last character, and how it ends. -/
structure ClusterEnd where
  last : ClusterClass
  /-- An odd number of regional indicators. -/
  oddRegional : Bool
  /-- A pictograph with its extenders. -/
  pictograph : Bool
  /-- A pictograph with its extenders, and a joiner behind it. -/
  joinedPictograph : Bool
  /-- A consonant, with marks behind it. -/
  consonant : Bool
  /-- A consonant, with marks behind it of which one is a linker. -/
  linked : Bool
  deriving DecidableEq, Repr

/-- The end of a cluster of one character. -/
def ClusterEnd.single (c : Char) : ClusterEnd :=
  let k := clusterClass c
  { last := k
    oddRegional := k = .regional
    pictograph := k = .other && pictographic.has c
    joinedPictograph := false
    consonant := k = .other && conjunctConsonant.has c
    linked := false }

/-- The end of a cluster with one more character. -/
def ClusterEnd.push (e : ClusterEnd) (c : Char) : ClusterEnd :=
  let one := ClusterEnd.single c
  let mark := (one.last = .extend && c ≠ '\u200c') || one.last = .joiner
  { last := one.last
    oddRegional := one.last = .regional && !e.oddRegional
    pictograph := one.pictograph || (e.pictograph && one.last = .extend)
    joinedPictograph := e.pictograph && one.last = .joiner
    consonant := one.consonant || (e.consonant && mark)
    linked := e.consonant && mark && (e.linked || conjunctLinker.has c) }

/-- Whether a character with this class goes on in the Hangul syllable that ends in `last`. -/
def continuesSyllable (last k : ClusterClass) : Bool :=
  match last with
  | .leading => k ∈ [.leading, .vowel, .openSyllable, .closedSyllable]
  | .openSyllable | .vowel => k ∈ [.vowel, .trailing]
  | .closedSyllable | .trailing => k = .trailing
  | _ => false

/-- Whether a cluster that ends so goes on with the character. -/
def ClusterEnd.continues (e : ClusterEnd) (c : Char) : Bool :=
  let k := clusterClass c
  if e.last = .carriageReturn && k = .lineFeed then true
  else if e.last ∈ [.carriageReturn, .lineFeed, .control] then false
  else if k ∈ [.carriageReturn, .lineFeed, .control] then false
  else
    k ∈ [.extend, .joiner, .spacing] || e.last = .opener || continuesSyllable e.last k ||
      (e.linked && conjunctConsonant.has c) || (e.joinedPictograph && pictographic.has c) ||
      (e.oddRegional && k = .regional)

/-- The clusters of a text that goes on from the characters `cluster`, last one first, with the
given end. -/
def clustersFrom (cluster : List Char) (e : ClusterEnd) : List Char → List (List Char)
  | [] => [cluster.reverse]
  | c :: rest =>
    if e.continues c then clustersFrom (c :: cluster) (e.push c) rest
    else cluster.reverse :: clustersFrom [c] (.single c) rest

/-- The clusters of a text. -/
def clusters : List Char → List (List Char)
  | [] => []
  | c :: rest => clustersFrom [c] (.single c) rest

end WordSieve.Text
