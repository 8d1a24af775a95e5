/-
  Reading a line with one key and one value.

  The reader of YAML knows many kinds of tokens and keeps the indentation, the flow collections and the
  places where keys could have begun.  A line such as `inbox_capacity: 16` needs little of that: two
  words, a colon and a blank.  Here it is shown, for any two words, that such a line is a document with
  one pair (`Document.ofText?_entryLine`).

  Characters come first: what a word may hold is nothing that means anything else to the reader
  (`ne_of_isWordChar`).  Then a word is read to its end, whatever may stand behind it (`EndsWord`), by
  induction on the word.  Then the tokens are read one after another, with the reading between them
  given in full: `next_key`, `next_colon`, `next_value`, `next_finish`.
-/
import CallMedia.Yaml.Node

namespace CallMedia.Yaml

/-! ## Characters of words

Each mark is excluded by one evaluation: it is not a character of words. -/

/-- A character that may stand anywhere in a plain scalar: an ASCII letter or digit, or a low line. -/
def isWordChar (x : Char) : Bool := x.isAlphanum || x = '_'

/-- A text of such characters. -/
structure IsWord (w : List Char) : Prop where
  nonempty : w ≠ []
  chars : ∀ x ∈ w, isWordChar x = true

section

variable {x y : Char}

/-- A character of words is none of the marks, nor a blank, nor a line break. -/
theorem ne_of_isWordChar (hx : isWordChar x = true) (hy : isWordChar y = false) : x ≠ y := by
  rintro rfl
  rw [hx] at hy
  cases hy

/-- The characters of words lie between the digit zero and the letter z, and are ASCII. -/
theorem toNat_of_isWordChar (hx : isWordChar x = true) : 0x30 ≤ x.toNat ∧ x.toNat ≤ 0x7a := by
  -- the classes of characters are ranges, and ranges of code points
  change (((decide ('A'.val ≤ x.val ∧ x.val ≤ 'Z'.val) ||
    decide ('a'.val ≤ x.val) && decide (x.val ≤ 'z'.val)) ||
    decide ('0'.val ≤ x.val) && decide (x.val ≤ '9'.val)) || decide (x = '_')) = true at hx
  simp only [Bool.or_eq_true, Bool.and_eq_true, decide_eq_true_eq, UInt32.le_iff_toNat_le] at hx
  change (((65 ≤ x.toNat ∧ x.toNat ≤ 90) ∨ (97 ≤ x.toNat ∧ x.toNat ≤ 122)) ∨
    (48 ≤ x.toNat ∧ x.toNat ≤ 57)) ∨ x = '_' at hx
  rcases hx with hx | rfl
  · omega
  · decide

/-- The reader lets them through. -/
theorem isAllowed_of_isWordChar (hx : isWordChar x = true) : isAllowed x = true := by
  have hrange := toNat_of_isWordChar hx
  have hplain : 0x20 ≤ x.toNat ∧ x.toNat ≤ 0x7e := by omega
  unfold isAllowed
  simp [hplain]

/-- A word holds no white space. -/
theorem blank_of_isWordChar (hx : isWordChar x = true) : isSpaceTab x = false ∧ isBreak x = false := by
  have hne : ∀ y, isWordChar y = false → x ≠ y := fun _ hy => ne_of_isWordChar hx hy
  constructor
  · simp [isSpaceTab, hne ' ' rfl, hne '\t' rfl]
  · simp [isBreak, hne '\n' rfl, hne '\u2028' rfl, hne '\u2029' rfl]

end

/-- A word begins with a character of words. -/
theorem IsWord.exists_cons {w : List Char} (h : IsWord w) :
    ∃ x rest, w = x :: rest ∧ isWordChar x = true := by
  obtain ⟨x, rest, rfl⟩ := List.exists_cons_of_ne_nil h.nonempty
  exact ⟨x, rest, rfl, h.chars x List.mem_cons_self⟩

/-- A text without carriage returns and next-line characters has its lines ended already. -/
theorem normalLines_of_forall_ne {cs : List Char} (h : ∀ x ∈ cs, x ≠ '\r' ∧ x ≠ '\u0085') :
    normalLines cs = cs := by
  induction cs with
  | nil => rfl
  | cons x cs ih =>
    obtain ⟨hreturn, hnext⟩ := h x List.mem_cons_self
    rw [normalLines, ih fun y hy => h y (List.mem_cons_of_mem _ hy)]
    · simp [hreturn, hnext]
    · rintro rest rfl
      exact absurd rfl hreturn

namespace Cursor

/-- A cursor moves one byte and one column past an ASCII character that breaks no line. -/
theorem next_of_ascii {x : Char} (hx : x.toNat < 0x80) (hbreak : isBreak x = false)
    (rest : List Char) (i l c : Nat) : next ⟨x :: rest, i, l, c⟩ = ⟨rest, i + 1, l, c + 1⟩ := by
  have hsize : x.utf8Size = 1 := by
    have hle : x.val ≤ 0x7f := UInt32.le_iff_toNat_le.2 (Nat.le_of_lt_succ hx)
    exact if_pos hle
  dsimp only [next]
  rw [hbreak, hsize]
  rfl

theorem next_of_isWordChar {x : Char} (hx : isWordChar x = true) (rest : List Char) (i l c : Nat) :
    next ⟨x :: rest, i, l, c⟩ = ⟨rest, i + 1, l, c + 1⟩ := by
  have hrange := toNat_of_isWordChar hx
  exact next_of_ascii (by omega) (blank_of_isWordChar hx).2 rest i l c

/-- What is seen is the first character of the rest. -/
theorem peek?_of_rest {cur : Cursor} {x : Char} {rest : List Char} (hrest : cur.rest = x :: rest) :
    cur.peek? = some x := by
  unfold peek?
  rw [hrest]
  rfl

/-- Nothing is passed where the test fails. -/
theorem skipWhile_of_head {cur : Cursor} {test : Char → Bool}
    (h : ∀ x, cur.peek? = some x → test x = false) : cur.skipWhile test = cur := by
  unfold skipWhile span
  -- nothing is passed at the end of the text either
  cases hrest : cur.rest with
  | nil => rfl
  | cons x rest =>
    have hno : ¬ test x = true := by
      rw [h x (peek?_of_rest hrest)]
      exact Bool.false_ne_true
    rw [List.takeWhile_cons_of_neg hno]
    rfl

/-- A mark between documents begins with its character. -/
theorem atDocumentMark_of_ne {cur : Cursor} {x y : Char} {rest : List Char}
    (hrest : cur.rest = y :: rest) (h : y ≠ x) : cur.atDocumentMark x = false := by
  have htake : cur.rest.take 3 ≠ [x, x, x] := by
    rw [hrest, List.take_succ_cons]
    intro heq
    exact h (List.cons.inj heq).1
  unfold atDocumentMark
  simp [htake]

end Cursor

/-! ## Words

The room is what bounds the reader's recursion.  A text has as much of it as it has characters. -/

/-- What may stand behind a word: nothing, or a colon with a blank. -/
inductive EndsWord : List Char → Prop where
  | finish : EndsWord []
  | colon (rest : List Char) : EndsWord (':' :: ' ' :: rest)

section

variable {w rest : List Char}

/-- A word ends at once where its end stands, however much room there is. -/
theorem readPlainWord_of_endsWord (h : EndsWord rest) (room i l c : Nat) :
    readPlainWord false room ⟨rest, i, l, c⟩ = some ([], ⟨rest, i, l, c⟩) := by
  cases room with
  | zero => rfl
  | succ room => cases h <;> rfl

/-- A word is read to its end, if there is room for it. -/
theorem readPlainWord_append (hw : ∀ x ∈ w, isWordChar x = true) (hrest : EndsWord rest) {room : Nat}
    (hroom : w.length ≤ room) (i l c : Nat) :
    readPlainWord false room ⟨w ++ rest, i, l, c⟩ =
      some (w, ⟨rest, i + w.length, l, c + w.length⟩) := by
  -- by induction on the word; position and column move along with it
  induction w generalizing room i c with
  | nil => exact readPlainWord_of_endsWord hrest room i l c
  | cons x w ih =>
    obtain ⟨hx, hw⟩ := List.forall_mem_cons.1 hw
    obtain ⟨hblank, hbreak⟩ := blank_of_isWordChar hx
    have hcolon : x ≠ ':' := ne_of_isWordChar hx rfl
    cases room with
    | zero => cases hroom
    | succ room =>
      have hlater := ih hw (Nat.le_of_succ_le_succ hroom) (i + 1) (c + 1)
      rw [List.cons_append, readPlainWord]
      simp only [hblank, hbreak, hcolon, Cursor.next_of_isWordChar hx, hlater]
      simp [Nat.add_comm, Nat.add_left_comm]

/-- A word is a whole plain scalar, since no white space stands behind it. -/
theorem readPlain_append (hw : IsWord w) (hrest : EndsWord rest) (indent : Int) (i l c : Nat) :
    readPlain false indent ⟨w ++ rest, i, l, c⟩ =
      some (String.ofList w, false, ⟨rest, i + w.length, l, c + w.length⟩) := by
  have hroom : w.length ≤ (w ++ rest).length := by
    rw [List.length_append]
    exact Nat.le_add_right _ _
  have hread := readPlainWord_append hw.chars hrest hroom i l c
  obtain ⟨x, w, rfl, hx⟩ := hw.exists_cons
  have hmark : ∀ y, isWordChar y = false →
      Cursor.atDocumentMark ⟨x :: w ++ rest, i, l, c⟩ y = false :=
    fun y hy => Cursor.atDocumentMark_of_ne rfl (ne_of_isWordChar hx hy)
  have hcomment : Cursor.sees ⟨x :: w ++ rest, i, l, c⟩ '#' = false := by
    simp [Cursor.sees, ne_of_isWordChar hx (y := '#') rfl]
  -- what stands behind the word is no white space, so the scalar ends there
  have hgap : readGap indent rest.length {} ⟨rest, i + (x :: w).length, l, c + (x :: w).length⟩ =
      some ({}, ⟨rest, i + (x :: w).length, l, c + (x :: w).length⟩) := by
    cases hrest <;> rfl
  unfold readPlain
  rw [readPlainFrom, hmark '-' rfl, hmark '.' rfl, hcomment]
  simp only [hread, hgap]
  rfl

end

/-! ## Tokens

The reading before each token is given in full, and so is the reading after it. -/

namespace Reading

/-- A character that is no white space and begins no comment. -/
structure IsSolid (x : Char) : Prop where
  space : isSpaceTab x = false
  line : isBreak x = false
  comment : x ≠ '#'
  mark : x ≠ '\ufeff'

/-- A word begins with a solid character. -/
theorem isSolid_of_isWordChar {x : Char} (hx : isWordChar x = true) : IsSolid x where
  space := (blank_of_isWordChar hx).1
  line := (blank_of_isWordChar hx).2
  comment := ne_of_isWordChar hx rfl
  mark := ne_of_isWordChar hx rfl

/-- The colon behind a key is solid too. -/
theorem isSolid_colon : IsSolid ':' where
  space := rfl
  line := rfl
  comment := by decide
  mark := by decide

/-- The character ahead is solid if the rest begins with a solid one. -/
theorem isSolid_of_rest {cur : Cursor} {x : Char} {rest : List Char} (hrest : cur.rest = x :: rest)
    (hx : IsSolid x) : ∀ y, cur.peek? = some y → IsSolid y := by
  intro y hy
  rw [Cursor.peek?_of_rest hrest] at hy
  cases hy
  exact hx

/-- Nothing is passed before a solid character, nor at the end. -/
theorem skipGap_of_isSolid {r : Reading} (h : ∀ x, r.cursor.peek? = some x → IsSolid x) (room : Nat) :
    skipGap room r = r := by
  cases room with
  | zero => rfl
  | succ room =>
    have hsees : ∀ y, ¬ IsSolid y → r.cursor.sees y = false := by
      intro y hy
      unfold Cursor.sees
      exact decide_eq_false fun hpeek => hy (h y hpeek)
    have hmark := hsees '\ufeff' fun hy => hy.mark rfl
    have hcomment := hsees '#' fun hy => hy.comment rfl
    -- blanks and tabs would be passed first, but there are none
    have hskip : r.cursor.skipWhile (fun x => x = ' ' || (x = '\t' && (r.inFlow || !r.keyAllowed))) =
        r.cursor := by
      refine Cursor.skipWhile_of_head fun x hx => ?_
      have hspace := (h x hx).space
      simp only [isSpaceTab, Bool.or_eq_false_iff] at hspace
      rw [hspace.1, hspace.2]
      rfl
    unfold skipGap
    rw [hmark, Bool.and_false, if_neg Bool.false_ne_true]
    dsimp only
    rw [hskip, hcomment, if_neg Bool.false_ne_true]
    cases hpeek : r.cursor.peek? with
    | none => rfl
    | some x =>
      dsimp only
      rw [(h x hpeek).line]
      rfl

/-- Blocks that are not deeper stay open. -/
theorem closeBlocks_of_le {r : Reading} {column : Int} (h : r.indent ≤ column) :
    r.closeBlocks column = r := by
  unfold closeBlocks
  split
  · rfl
  · cases r.outer with
    | nil => rfl
    | cons shallower rest => rw [closeFrom, if_neg (Int.not_lt.2 h)]

/-- Passing what stands between tokens leads from `r` to `g`, where no remembered place is too old and no
    block ends. -/
structure Arrives (r g : Reading) : Prop where
  gap : skipGap (r.cursor.rest.length + 1) r = g
  fresh : g.dropStale = some g
  blocks : g.closeBlocks g.cursor.column = g

section

variable {r g : Reading} {x : Char} {rest : List Char}

/-- Where a word begins, a plain scalar is read. -/
theorem next_of_isWordChar (h : Arrives r g) (hrest : g.cursor.rest = x :: rest)
    (hx : isWordChar x = true) : r.next = g.plain := by
  have hne : ∀ y, isWordChar y = false → x ≠ y := fun y hy => ne_of_isWordChar hx hy
  have hmark : ∀ y, isWordChar y = false → g.cursor.atDocumentMark y = false :=
    fun y hy => Cursor.atDocumentMark_of_ne hrest (hne y hy)
  -- the marks that cannot begin a plain scalar are checked once, as a list
  have hstarts : g.startsPlain x = true := by
    have hmarks : ("-?:,[]\x7b\x7d#&*!|>'\"%@\x60".toList.all fun y => !isWordChar y) = true := by
      decide
    have hlist : "-?:,[]\x7b\x7d#&*!|>'\"%@\x60".toList.contains x = false := by
      rw [← Bool.not_eq_true, List.contains_iff_mem]
      intro hmem
      have hno : (!isWordChar x) = true := List.all_eq_true.1 hmarks x hmem
      rw [hx] at hno
      cases hno
    unfold startsPlain
    rw [(blank_of_isWordChar hx).1, hlist]
    rfl
  unfold next
  dsimp only
  rw [h.gap, h.fresh]
  -- none of the marks that are asked for is here
  simp only [Option.bind_eq_bind, Option.bind_some, h.blocks, Cursor.peek?_of_rest hrest,
    hmark '-' rfl, hmark '.' rfl, hne '%' rfl, hne '[' rfl, hne '\x7b' rfl, hne ']' rfl, hne '\x7d' rfl,
    hne ',' rfl, hne '-' rfl, hne '?' rfl, hne ':' rfl, hne '*' rfl, hne '&' rfl, hne '!' rfl,
    hne '|' rfl, hne '>' rfl, hne '\'' rfl, hne '"' rfl, hstarts]
  simp

/-- Where a colon and a blank stand, the mark of a value is read. -/
theorem next_of_colon (h : Arrives r g) (hrest : g.cursor.rest = ':' :: ' ' :: rest) :
    r.next = g.valueMark := by
  have hmark : ∀ y, ':' ≠ y → g.cursor.atDocumentMark y = false :=
    fun y hy => Cursor.atDocumentMark_of_ne hrest hy
  have hbehind : g.cursor.gapAt 1 = true := by
    unfold Cursor.gapAt
    rw [hrest]
    rfl
  unfold next
  dsimp only
  rw [h.gap, h.fresh]
  simp only [Option.bind_eq_bind, Option.bind_some, h.blocks, Cursor.peek?_of_rest hrest,
    hmark '-' (by decide), hmark '.' (by decide), hbehind]
  simp

/-- Where nothing stands any more, all blocks end and with them the text. -/
theorem next_of_nil (h : Arrives r g) (hrest : g.cursor.rest = []) :
    r.next = (g.closeBlocks (-1)).forgetPlace.bind fun r =>
      some ({ r with keyAllowed := false }.push .finish) := by
  have hpeek : g.cursor.peek? = none := by
    unfold Cursor.peek?
    rw [hrest]
    rfl
  unfold next
  dsimp only
  rw [h.gap, h.fresh]
  simp only [Option.bind_eq_bind, Option.bind_some, h.blocks, hpeek]

end

/-- What has been read when a token stands at the start of the text, and a key could begin there. -/
def behindKey (cursor : Cursor) (t : Token) : Reading :=
  { cursor, tokens := #[t], places := [some ⟨0, false, 0, 0, 0⟩], keyAllowed := false }

/-- What has been read inside a mapping that is not indented. -/
def inMapping (cursor : Cursor) (tokens : Array Token) : Reading :=
  { cursor, tokens, indent := 0, outer := [-1], keyAllowed := false }

/-- At the start of the text a word is read, and its place remembered in case it is a key. -/
theorem next_key {k rest : List Char} (hk : IsWord k) (hrest : EndsWord rest) :
    next { cursor := ⟨k ++ rest, 0, 0, 0⟩ } =
      some (behindKey ⟨rest, k.length, 0, k.length⟩ (.scalar .plain (String.ofList k))) := by
  have hread := readPlain_append hk hrest (-1 + 1) 0 0 0
  obtain ⟨x, w, rfl, hx⟩ := hk.exists_cons
  have harrives : Arrives { cursor := ⟨x :: w ++ rest, 0, 0, 0⟩ }
      { cursor := ⟨x :: w ++ rest, 0, 0, 0⟩ } :=
    ⟨skipGap_of_isSolid (isSolid_of_rest rfl (isSolid_of_isWordChar hx)) _, rfl, rfl⟩
  rw [next_of_isWordChar harrives rfl hx]
  -- what follows is what `plain` does with the scalar that it reads
  show (readPlain false (-1 + 1) ⟨x :: w ++ rest, 0, 0, 0⟩).bind _ = _
  rw [hread, Nat.zero_add]
  rfl

/-- What stood before the colon was the key of a mapping. -/
theorem next_colon {n : Nat} (hn : n ≤ 1024) (rest : List Char) (t : Token) :
    (behindKey ⟨':' :: ' ' :: rest, n, 0, n⟩ t).next =
      some (inMapping ⟨' ' :: rest, n + 1, 0, n + 1⟩ #[.blockMapping, .key, t, .value]) := by
  -- a key may be no longer than 1024, or its place would be too old
  have hfresh : (behindKey ⟨':' :: ' ' :: rest, n, 0, n⟩ t).dropStale =
      some (behindKey ⟨':' :: ' ' :: rest, n, 0, n⟩ t) := by
    have hnear : ¬ 0 + 1024 < n := by omega
    unfold dropStale behindKey
    simp [hnear]
  have harrives : Arrives (behindKey ⟨':' :: ' ' :: rest, n, 0, n⟩ t)
      (behindKey ⟨':' :: ' ' :: rest, n, 0, n⟩ t) :=
    ⟨skipGap_of_isSolid (isSolid_of_rest rfl isSolid_colon) _, hfresh, rfl⟩
  have hnext : Cursor.next ⟨':' :: ' ' :: rest, n, 0, n⟩ = ⟨' ' :: rest, n + 1, 0, n + 1⟩ :=
    Cursor.next_of_ascii (by decide) rfl _ _ _ _
  rw [next_of_colon harrives rfl]
  unfold valueMark behindKey
  simp [place, insertAt, openBlock, inFlow, setPlace, push, hnext, inMapping]

/-- Behind the mark of a value the blank is passed and the second word read. -/
theorem next_value {v : List Char} (hv : IsWord v) (n : Nat) (tokens : Array Token) :
    (inMapping ⟨' ' :: v, n, 0, n⟩ tokens).next =
      some (inMapping ⟨[], n + 1 + v.length, 0, n + 1 + v.length⟩
        (tokens.push (.scalar .plain (String.ofList v)))) := by
  have hread := readPlain_append hv .finish (0 + 1) (n + 1) 0 (n + 1)
  rw [List.append_nil] at hread
  obtain ⟨x, w, rfl, hx⟩ := hv.exists_cons
  -- the blank is passed, and no more
  have hgap : skipGap ((' ' :: x :: w).length + 1) (inMapping ⟨' ' :: x :: w, n, 0, n⟩ tokens) =
      inMapping ⟨x :: w, n + 1, 0, n + 1⟩ tokens := by
    have hne : ∀ y, isWordChar y = false → x ≠ y := fun y hy => ne_of_isWordChar hx hy
    have hnext : Cursor.next ⟨' ' :: x :: w, n, 0, n⟩ = ⟨x :: w, n + 1, 0, n + 1⟩ := rfl
    unfold skipGap
    simp [inMapping, Cursor.sees, Cursor.skipWhile, Cursor.span, Cursor.skip, Cursor.peek?, hnext,
      hne ' ' rfl, hne '\t' rfl, hne '#' rfl, (blank_of_isWordChar hx).2]
  have harrives : Arrives (inMapping ⟨' ' :: x :: w, n, 0, n⟩ tokens)
      (inMapping ⟨x :: w, n + 1, 0, n + 1⟩ tokens) :=
    ⟨hgap, rfl, closeBlocks_of_le (Int.natCast_nonneg _)⟩
  rw [next_of_isWordChar harrives rfl hx]
  show (readPlain false (0 + 1) ⟨x :: w, n + 1, 0, n + 1⟩).bind _ = _
  rw [hread]
  rfl

/-- The end of the text ends the mapping too. -/
theorem next_finish (n : Nat) (tokens : Array Token) :
    (inMapping ⟨[], n, 0, n⟩ tokens).next =
      some { cursor := ⟨[], n, 0, n⟩, tokens := (tokens.push .blockEnd).push .finish,
             keyAllowed := false } := by
  have harrives : Arrives (inMapping ⟨[], n, 0, n⟩ tokens) (inMapping ⟨[], n, 0, n⟩ tokens) :=
    ⟨skipGap_of_isSolid (by rintro y ⟨⟩) _, rfl, closeBlocks_of_le (Int.natCast_nonneg _)⟩
  rw [next_of_nil harrives rfl]
  rfl

end Reading

/-! ## Documents

The tokens put together. -/

/-- A line with a key and a value. -/
def entryLine (k v : String) : String := k ++ ": " ++ v

section

variable {k v : String}

/-- The cursor is set at the start of the line, which holds only characters that are allowed. -/
theorem Cursor.ofText?_entryLine (hk : IsWord k.toList) (hv : IsWord v.toList) :
    Cursor.ofText? (entryLine k v) = some { rest := k.toList ++ ':' :: ' ' :: v.toList } := by
  have htext : (entryLine k v).toList = k.toList ++ ':' :: ' ' :: v.toList := by
    unfold entryLine
    rw [String.toList_append, String.toList_append, List.append_assoc]
    rfl
  have hword : ∀ x, isWordChar x = true → isAllowed x = true ∧ x ≠ '\r' ∧ x ≠ '\u0085' := fun x hx =>
    ⟨isAllowed_of_isWordChar hx, ne_of_isWordChar hx rfl, ne_of_isWordChar hx rfl⟩
  have hall : ∀ x ∈ k.toList ++ ':' :: ' ' :: v.toList,
      isAllowed x = true ∧ x ≠ '\r' ∧ x ≠ '\u0085' := by
    refine List.forall_mem_append.2 ⟨fun x hx => hword x (hk.chars x hx), ?_⟩
    refine List.forall_mem_cons.2 ⟨by decide, List.forall_mem_cons.2 ⟨by decide, ?_⟩⟩
    exact fun x hx => hword x (hv.chars x hx)
  unfold Cursor.ofText?
  rw [htext]
  dsimp only
  rw [if_pos (List.all_eq_true.2 fun x hx => (hall x hx).1),
    normalLines_of_forall_ne fun x hx => (hall x hx).2]

/-- The tokens of the line: a mapping with a key and a value, and the end. -/
theorem Token.ofText?_entryLine (hk : IsWord k.toList) (hshort : k.toList.length ≤ 1024)
    (hv : IsWord v.toList) :
    Token.ofText? (entryLine k v) =
      some [.blockMapping, .key, .scalar .plain k, .value, .scalar .plain v, .blockEnd, .finish] := by
  -- there is room for the four tokens that are read
  obtain ⟨rounds, hrounds⟩ : ∃ rounds, (k.toList ++ ':' :: ' ' :: v.toList).length + 1 = rounds + 4 := by
    have hpos := List.length_pos_iff.2 hk.nonempty
    refine ⟨k.toList.length + v.toList.length - 1, ?_⟩
    rw [List.length_append, List.length_cons, List.length_cons]
    omega
  unfold Token.ofText?
  rw [Cursor.ofText?_entryLine hk hv, Option.bind_some]
  dsimp only
  rw [hrounds]
  simp only [Reading.all, Reading.next_key hk (.colon _), Reading.next_colon hshort,
    Reading.next_value hv, Reading.next_finish, String.ofList_toList]
  rfl

/-- A line with a key and a value is a mapping with one pair. -/
theorem Document.ofText?_entryLine (hk : IsWord k.toList) (hshort : k.toList.length ≤ 1024)
    (hv : IsWord v.toList) :
    Document.ofText? (entryLine k v) =
      some (some { root := .mapping [(.scalar .plain none k, .scalar .plain none v)] }) := by
  unfold Document.ofText?
  rw [Token.ofText?_entryLine hk hshort hv]
  rfl

end

end CallMedia.Yaml
