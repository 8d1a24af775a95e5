/-
  How large an inbox may be, and which settings ask for more.

  Two places have a say in the capacity of an inbox.  The check of the settings wants it to be positive;
  and a controller is only made if its permits can be counted.  The check does not know of the second
  bound, and a reader of settings takes any number of 64 bits.  So there are settings that are accepted
  and with which no controller can be made, and here it is said which (`installable_iff_countable`).

    * A controller is made of accepted settings exactly if their capacity is below 2^61, and then every
      permit is there and free (`new?_eq_some`, `new?_eq_none`).  Nothing is needed for this but that
      accepted settings passed the check.
    * Which capacities can stand in a text depends on what it is read with.  Two things are asked of a
      reader (`Reader.Faithful`): numbers fit their words, and a text that gives the capacity in decimal
      digits, and nothing else, is read so.  Then they are exactly the positive numbers of 64 bits
      (`exists_ofText_iff`).
    * The reader of this library is faithful (`read?_faithful`): whatever number it reads fits its word
      (`ofDocument?_inRange`), and digits are read back (`numeral?_toString`).
-/
import Mathlib.Algebra.Group.Nat.Defs
import CallMedia.Proofs.Pairs
import CallMedia.Proofs.Run
import CallMedia.Service
import CallMedia.Settings.Document

namespace CallMedia

open Yaml

namespace Settings

/-! ## Decimal digits

Between a number and its digits: written out by the library's `toString`, read by `numeral?`. -/

section

variable {c : Char} {cs : List Char}

/-- A decimal digit has the value that it has as a hexadecimal one, which is below ten. -/
theorem hexValue?_of_isDigit (hc : c.isDigit = true) :
    hexValue? c = some (c.toNat - '0'.toNat) ∧ c.toNat - '0'.toNat < 10 := by
  simp only [Char.isDigit, Bool.and_eq_true, decide_eq_true_eq, ge_iff_le] at hc
  constructor
  · unfold hexValue?
    exact if_pos hc
  · have hle : c.val.toNat ≤ 57 := UInt32.le_iff_toNat_le.1 hc.2
    show c.val.toNat - 48 < 10
    omega

/-- Digits are read as the number that they write. -/
theorem digits?_ten (hne : cs ≠ []) (h : ∀ c ∈ cs, c.isDigit = true) :
    digits? 10 cs = some (Nat.ofDigitChars 10 cs 0) := by
  unfold digits?
  rw [if_neg hne]
  generalize 0 = n
  clear hne
  -- the value so far is carried along
  induction cs generalizing n with
  | nil => rfl
  | cons c cs ih =>
    obtain ⟨hc, hcs⟩ := List.forall_mem_cons.1 h
    obtain ⟨hvalue, hsmall⟩ := hexValue?_of_isDigit hc
    rw [List.foldlM_cons, hvalue, Option.bind_some, if_pos hsmall, Nat.mul_comm]
    exact ih hcs _

/-- Without a sign or a leading zero a numeral is decimal. -/
theorem numeral?_of_head {text : String} (htext : text.toList = c :: cs) (hplus : c ≠ '+')
    (hzero : c ≠ '0') : numeral? text = digits? 10 (c :: cs) := by
  unfold numeral?
  rw [htext]
  simp [hplus, hzero]

end

section

variable {n : Nat}

/-- A number is written in decimal digits. -/
theorem isDigit_of_mem {c : Char} (hc : c ∈ (toString n).toList) : c.isDigit = true := by
  rw [Nat.toString_eq_ofList_toDigits, String.toList_ofList] at hc
  exact Nat.isDigit_of_mem_toDigits (by decide) (by decide) hc

/-- A positive number is written without a leading zero. -/
theorem head?_toDigits_ne (hn : 0 < n) : (Nat.toDigits 10 n).head? ≠ some '0' := by
  -- the leading digit is that of the number without its last
  induction n using Nat.strongRecOn with
  | ind n ih =>
    rw [Nat.toDigits_eq_if (by decide)]
    split
    · intro h
      have hzero : n = 0 := Nat.digitChar_eq_zero.1 (Option.some.inj h)
      omega
    · have hrest := ih (n / 10) (by omega) (by omega)
      obtain ⟨c, cs, heq⟩ := List.exists_cons_of_ne_nil (Nat.toDigits_ne_nil (n := n / 10) (b := 10))
      rw [heq] at hrest ⊢
      exact hrest

/-- A number that is written in decimal digits is read back. -/
theorem numeral?_toString (n : Nat) : numeral? (toString n) = some n := by
  -- zero is the one number that begins with a zero
  rcases Nat.eq_zero_or_pos n with rfl | hn
  · rfl
  have hdigits : ∀ c ∈ (toString n).toList, c.isDigit = true := fun _ => isDigit_of_mem
  have htext : (toString n).toList = Nat.toDigits 10 n := by
    rw [Nat.toString_eq_ofList_toDigits, String.toList_ofList]
  have hhead := head?_toDigits_ne hn
  have hvalue := Nat.ofDigitChars_ten_toDigits (n := n)
  have hne := Nat.toDigits_ne_nil (n := n) (b := 10)
  rw [← htext] at hhead hvalue hne
  obtain ⟨c, cs, heq⟩ := List.exists_cons_of_ne_nil hne
  rw [heq] at hdigits hhead hvalue
  have hplus : c ≠ '+' := by
    rintro rfl
    exact absurd (hdigits '+' List.mem_cons_self) (by decide)
  rw [numeral?_of_head heq hplus fun h => hhead (congrArg some h),
    digits?_ten (List.cons_ne_nil c cs) hdigits, hvalue]

/-- A number that is written in decimal digits is a word. -/
theorem isWord_toString (n : Nat) : IsWord (toString n).toList where
  nonempty := by
    rw [Nat.toString_eq_ofList_toDigits, String.toList_ofList]
    exact Nat.toDigits_ne_nil
  chars c hc := by
    unfold isWordChar Char.isAlphanum
    rw [isDigit_of_mem hc, Bool.or_true, Bool.true_or]

/-- A number in decimal digits is read back, if it is not too large. -/
theorem natural?_toString (most n : Nat) :
    natural? most (.scalar .plain none (toString n)) = if n ≤ most then some n else none := by
  -- a plain scalar without a tag is a number if its text is a numeral
  show ((numeral? (toString n)).filter fun k => k ≤ most) = _
  rw [numeral?_toString]
  split
  · next h => exact if_pos (decide_eq_true h)
  · next h => exact if_neg (by rw [decide_eq_true_eq]; exact h)

end

/-! ## What is read

Every number in a document is read with a bound, so that the bounds of settings follow from the way
they are read, key by key. -/

/-- The numbers of the settings fit the words that they are kept in. -/
structure InRange (s : Settings) : Prop where
  inboxCapacity : s.inboxCapacity ≤ most64
  recordInterSignalTimeoutMs : s.recordInterSignalTimeoutMs ≤ most64
  maxLengthSecs : s.callRecording.maxLengthSecs ≤ most32
  timeoutSecs : s.callRecording.timeoutSecs ≤ most32

/-- A number that is read is no larger than it may be. -/
theorem natural?_le {most : Nat} {n : Node} {k : Nat} (h : natural? most n = some k) : k ≤ most := by
  unfold natural? at h
  rw [Option.filter_eq_some_iff] at h
  exact of_decide_eq_true h.2

/-- A value of a key has what its default has and whatever is read has. -/
theorem entry?_has {α : Type} {P : α → Prop} {read : Node → Option α} {standard a : α} {key : String}
    {es : List (String × Node)} (h : entry? read standard key es = some a) (hstandard : P standard)
    (hread : ∀ n a, read n = some a → P a) : P a := by
  unfold entry? at h
  split at h
  · cases h
    exact hstandard
  · exact hread _ _ h
  · cases h

/-- The number under a key is no larger than it may be, whether it is read or taken by default. -/
theorem entry?_le {most standard k : Nat} {key : String} {es : List (String × Node)}
    (h : entry? (natural? most) standard key es = some k) (hstandard : standard ≤ most) : k ≤ most :=
  entry?_has (P := (· ≤ most)) h hstandard fun _ _ => natural?_le

/-- The numbers of the recording defaults fit words of 32 bits. -/
theorem recordingDefaults?_le {doc : Yaml.Document} {n : Node} {d : RecordingDefaults}
    (h : recordingDefaults? doc n = some d) : d.maxLengthSecs ≤ most32 ∧ d.timeoutSecs ≤ most32 := by
  unfold recordingDefaults? at h
  simp only [Option.bind_eq_bind, Option.bind_eq_some_iff] at h
  obtain ⟨es, -, keys, -, maxLength, hmax, timeout, htimeout, hd⟩ := h
  cases hd
  exact ⟨entry?_le hmax (by decide), entry?_le htimeout (by decide)⟩

/-- Whatever settings are read from a document, their numbers fit. -/
theorem ofDocument?_inRange {doc : Yaml.Document} {s : Settings} (h : ofDocument? doc = some s) :
    s.InRange := by
  unfold ofDocument? at h
  simp only [Option.bind_eq_bind, Option.bind_eq_some_iff] at h
  obtain ⟨es, -, capacity, hcapacity, version, -, timeout, htimeout, recording, hrecording, logging, -,
    hs⟩ := h
  cases hs
  -- the defaults for recordings are a mapping within the mapping
  have hdefaults := entry?_has
    (P := fun d : RecordingDefaults => d.maxLengthSecs ≤ most32 ∧ d.timeoutSecs ≤ most32)
    hrecording (by decide) fun _ _ => recordingDefaults?_le
  exact ⟨entry?_le hcapacity (by decide), entry?_le htimeout (by decide), hdefaults.1, hdefaults.2⟩

/-- Whatever settings are read from a text, their numbers fit.  An empty text gives the defaults. -/
theorem read?_inRange {text : String} {s : Settings} (h : read? text = some s) : s.InRange := by
  unfold read? at h
  split at h
  · cases h
  · cases h
    exact ⟨by decide, by decide, by decide, by decide⟩
  · exact ofDocument?_inRange h

/-- The settings of a capacity, the rest as by default, are read from a line that says so. -/
theorem read?_capacity {n : Nat} (hmost : n ≤ most64) :
    read? (entryLine "inbox_capacity" (toString n)) = some { inboxCapacity := n } := by
  have hall : "inbox_capacity".toList.all isWordChar = true := by decide
  have hkey : IsWord "inbox_capacity".toList := ⟨by decide, List.all_eq_true.1 hall⟩
  have hnumber : natural? most64 (.scalar .plain none (toString n)) = some n := by
    rw [natural?_toString, if_pos hmost]
  unfold read?
  rw [Document.ofText?_entryLine hkey (by decide) (isWord_toString n)]
  show (natural? most64 (.scalar .plain none (toString n))).bind _ = _
  rw [hnumber]
  rfl

/-- What is asked of a reader of settings: numbers fit their words, and a text that gives the capacity
    and nothing else is read so. -/
structure Reader.Faithful (read : Reader) : Prop where
  inRange : ∀ {text s}, read text = some s → s.InRange
  capacity : ∀ {n}, n ≤ most64 →
    read (entryLine "inbox_capacity" (toString n)) = some { inboxCapacity := n }

/-- The reader of this library is faithful. -/
theorem read?_faithful : Reader.Faithful read? := ⟨read?_inRange, read?_capacity⟩

/-! ## What is accepted

There are three ways to come by settings, and the check stands in each. -/

section

variable {read : Reader}

/-- Settings are read from a text if the reader reads them and they pass the check. -/
theorem ofText_eq_ok_iff {text : String} {s : Settings} :
    ofText text read = .ok s ↔ read text = some s ∧ s.check = .ok () := by
  unfold ofText
  -- what cannot be read is refused before the check
  cases read text with
  | none => exact ⟨nofun, nofun⟩
  | some t =>
    constructor
    · intro h
      dsimp only at h
      cases hcheck : t.check with
      | error e =>
        rw [hcheck] at h
        cases h
      | ok u =>
        rw [hcheck] at h
        cases h
        exact ⟨rfl, hcheck⟩
    · rintro ⟨⟨⟩, hcheck⟩
      dsimp only
      rw [hcheck]
      rfl

/-- Settings in a file are those in the text of the file. -/
theorem ofFile_eq_ok {files : Files} {path : Path} {s : Settings}
    (h : ofFile files path read = .ok s) : ∃ text, ofText text read = .ok s := by
  unfold ofFile at h
  split at h
  · cases h
  · exact ⟨_, h⟩

/-- A positive capacity of 64 bits is accepted. -/
theorem ofText_capacity (hread : read.Faithful) {n : Nat} (hpos : 0 < n) (hmost : n ≤ most64) :
    ofText (entryLine "inbox_capacity" (toString n)) read = .ok { inboxCapacity := n } := by
  refine ofText_eq_ok_iff.2 ⟨hread.capacity hmost, ?_⟩
  -- the other settings are as by default
  have hdefaults : ({} : Settings).check = .ok () := rfl
  obtain ⟨-, hversion, hlength, hlevel⟩ := (check_eq_ok_iff _).1 hdefaults
  exact (check_eq_ok_iff _).2 ⟨hpos, hversion, hlength, hlevel⟩

variable (read) in
/-- Settings that are accepted, wherever they come from. -/
inductive Accepted (s : Settings) : Prop where
  | checked (h : s.check = .ok ())
  | read (text : String) (h : ofText text read = .ok s)
  | loaded (files : Files) (path : Path) (h : ofFile files path read = .ok s)

/-- Whatever is read has been checked. -/
theorem Accepted.check {s : Settings} (h : s.Accepted read) : s.check = .ok () := by
  cases h with
  | checked h => exact h
  | read text h => exact (ofText_eq_ok_iff.1 h).2
  | loaded files path h =>
    obtain ⟨text, htext⟩ := ofFile_eq_ok h
    exact (ofText_eq_ok_iff.1 htext).2

/-- A capacity stands in a text that is accepted if it is positive and has 64 bits. -/
theorem exists_ofText_iff (hread : read.Faithful) (n : Nat) :
    (∃ text s, ofText text read = .ok s ∧ s.inboxCapacity = n) ↔ 0 < n ∧ n < 2 ^ 64 := by
  have hmost : most64 = 2 ^ 64 - 1 := rfl
  constructor
  · -- the check sees to the lower bound, the width of the word to the upper one
    rintro ⟨text, s, h, rfl⟩
    obtain ⟨hs, hcheck⟩ := ofText_eq_ok_iff.1 h
    have hrange := (hread.inRange hs).inboxCapacity
    have hpos := ((check_eq_ok_iff s).1 hcheck).1
    omega
  · rintro ⟨hpos, hlt⟩
    exact ⟨_, _, ofText_capacity hread hpos (by omega), rfl⟩

end

end Settings

/-! ## Controllers -/

section

variable {σ : Type} {site : Site σ}

/-- A capacity that can be counted is the number of permits of a new inbox, one at least. -/
theorem Service.new?_eq_some (h : site.settings.inboxCapacity < 2 ^ 61) (outside : σ) (files : Files) :
    Service.new? site outside files =
      some { controller := { desk := { outside, files } },
             inbox := { free := max 1 site.settings.inboxCapacity } } := by
  have hfits : max 1 site.settings.inboxCapacity ≤ Inbox.mostPermits := by
    show _ ≤ 2 ^ 61 - 1
    omega
  unfold Service.new? Inbox.ofCapacity?
  rw [if_pos hfits]
  rfl

/-- With a capacity that cannot be counted no controller is made. -/
theorem Service.new?_eq_none (h : 2 ^ 61 ≤ site.settings.inboxCapacity) (outside : σ)
    (files : Files) : Service.new? site outside files = none := by
  have hexceeds : ¬ max 1 site.settings.inboxCapacity ≤ Inbox.mostPermits := by
    show ¬ _ ≤ 2 ^ 61 - 1
    omega
  unfold Service.new? Inbox.ofCapacity?
  rw [if_neg hexceeds]
  rfl

/-- Accepted settings and controllers.  With settings that are accepted a controller can be made if, and
    only if, their capacity is below 2^61; all its permits are free then, and there are as many as the
    settings say.  Acceptance does not see to that: with a faithful reader each capacity from 1 to
    2^64 - 1 stands in a text that is accepted, and those from 2^61 on are too large. -/
theorem installable_iff_countable {read : Settings.Reader} (hread : read.Faithful)
    (h : site.settings.Accepted read) (outside : σ) (files : Files) :
    ((∃ s, Service.new? site outside files = some s) ↔ site.settings.inboxCapacity < 2 ^ 61) ∧
    (∀ s, Service.new? site outside files = some s →
      s.inbox = { free := site.settings.inboxCapacity } ∧
      s.inbox.permits = site.settings.inboxCapacity) ∧
    ∀ n, (∃ text t, Settings.ofText text read = .ok t ∧ t.inboxCapacity = n) ↔
      0 < n ∧ n < 2 ^ 64 := by
  have hpos := ((Settings.check_eq_ok_iff _).1 h.check).1
  have hmax : max 1 site.settings.inboxCapacity = site.settings.inboxCapacity := Nat.max_eq_right hpos
  refine ⟨?_, ?_, Settings.exists_ofText_iff hread⟩
  · constructor
    · rintro ⟨s, hs⟩
      refine Nat.lt_of_not_le fun hexceeds => ?_
      rw [Service.new?_eq_none hexceeds] at hs
      cases hs
    · exact fun hfits => ⟨_, Service.new?_eq_some hfits outside files⟩
  · intro s hs
    obtain ⟨inbox, hinbox, rfl⟩ := Option.map_eq_some_iff.1 hs
    have hpermits := Inbox.permits_ofCapacity? hinbox
    rw [hmax] at hpermits
    refine ⟨?_, hpermits⟩
    unfold Inbox.ofCapacity? at hinbox
    rw [hmax] at hinbox
    split at hinbox
    · exact (Option.some.inj hinbox).symm
    · cases hinbox

end

namespace Sample

/-- The site with an inbox of another capacity. -/
def siteOf (capacity : Nat) : Site Unit := { site with settings := { inboxCapacity := capacity } }

end Sample

/-- The largest capacity that can be counted, and the next one, are both read and accepted. -/
theorem installable_iff_countable_boundary :
    Settings.Reader.Faithful Settings.read? ∧
    (Sample.siteOf (2 ^ 61 - 1)).settings.Accepted Settings.read? ∧
    (∃ s, Service.new? (Sample.siteOf (2 ^ 61 - 1)) () {} = some s ∧ s.inbox.permits = 2 ^ 61 - 1) ∧
    (Sample.siteOf (2 ^ 61)).settings.Accepted Settings.read? ∧
    ¬ ∃ s, Service.new? (Sample.siteOf (2 ^ 61)) () {} = some s := by
  have hread := Settings.read?_faithful
  have hlast : (Sample.siteOf (2 ^ 61 - 1)).settings.Accepted Settings.read? :=
    .read _ (Settings.ofText_capacity hread (by decide) (by decide))
  have hnext : (Sample.siteOf (2 ^ 61)).settings.Accepted Settings.read? :=
    .read _ (Settings.ofText_capacity hread (by decide) (by decide))
  obtain ⟨hmade, hpermits, -⟩ := installable_iff_countable hread hlast () {}
  obtain ⟨hrefused, -⟩ := installable_iff_countable hread hnext () {}
  obtain ⟨s, hs⟩ := hmade.2 (by decide)
  exact ⟨hread, hlast, ⟨s, hs, (hpermits s hs).2⟩, hnext, fun hs => absurd (hrefused.1 hs) (by decide)⟩

/-- Settings that pass the check with which no controller can be made.  A text that gives them is read,
    too. -/
theorem uncountable_accepted :
    (Sample.siteOf 2305843009213693952).settings.check = .ok () ∧
    Service.new? (Sample.siteOf 2305843009213693952) () {} = none ∧
    Settings.ofText "inbox_capacity: 2305843009213693952" Settings.read? =
      .ok (Sample.siteOf 2305843009213693952).settings := by
  have hread : Settings.ofText "inbox_capacity: 2305843009213693952" Settings.read? =
      .ok (Sample.siteOf 2305843009213693952).settings :=
    Settings.ofText_capacity Settings.read?_faithful (n := 2305843009213693952) (by decide) (by decide)
  exact ⟨(Settings.ofText_eq_ok_iff.1 hread).2, Service.new?_eq_none (by decide) () {}, hread⟩

end CallMedia
