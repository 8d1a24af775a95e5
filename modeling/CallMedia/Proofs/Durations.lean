/-
  The length that is reported of a recording.

  Two things can be reported: the quotient that the header of the artifact states, and the whole seconds
  between two instants.  `Recording.Reported` says when it is which, `Duration.Fits` that neither is
  spoilt on its way to a binary64 number, and `Recording.finalDuration_reported` that this is so of every
  artifact and every pair of instants, whatever reader the artifacts are found and read with.

    * What can be measured is a file that is there, whose header is accepted, and which holds frames at
      a rate (`Recording.Measures`).  Whatever is missing of this, the clock takes its place.
    * Of a reader nothing is asked but that it counts frames and rate in 32 bits (`Reader.Bounded`).
      The standard reader does (`Reader.standard_bounded`).
    * The seconds are those that fit between the instants (`Instant.SecondsFit`).  Truncation toward zero
      is what makes this come out right: a difference short of a second is none, on either side.
    * An end before the start counts as no time.

  Outside leap seconds it is the same whether `k` seconds fit between two instants, or whether the instant
  `k` seconds after the first comes no later than the second (`Instant.secondsFit_iff`).  With a leap
  second the two questions differ, for the days are left out of the count of leap seconds and not of the
  order of instants; what is reported then is the count.
-/
import CallMedia.Proofs.Rounding
import CallMedia.Recording

namespace CallMedia

/-! ## Instants

The difference of two instants is a number of nanoseconds, and its whole seconds are counted by
truncation.  Here these are the most seconds that fit, and the calendar is what keeps them small. -/

namespace Instant

/-- Instants come in the order of their seconds, and in one second in that of their nanoseconds. -/
instance : LE Instant :=
  ⟨fun a b => a.seconds < b.seconds ∨ a.seconds = b.seconds ∧ a.nanos ≤ b.nanos⟩

instance : LT Instant :=
  ⟨fun a b => a.seconds < b.seconds ∨ a.seconds = b.seconds ∧ a.nanos < b.nanos⟩

/-- The instant `k` seconds later.  A leap second is left behind. -/
def later (i : Instant) (k : Nat) : Instant :=
  ⟨i.seconds + k, if k = 0 then i.nanos else i.nanos % 1000000000⟩

/-- Whether `k` seconds fit between two instants. -/
def SecondsFit (started ended : Instant) (k : Nat) : Prop :=
  (k : Int) * 1000000000 ≤ started.nanosecondsBetween ended

instance (started ended : Instant) (k : Nat) : Decidable (started.SecondsFit ended k) :=
  inferInstanceAs (Decidable ((k : Int) * 1000000000 ≤ started.nanosecondsBetween ended))

/-- The whole seconds of a time that does not run backwards are the most that fit. -/
theorem secondsFit_iff_le {started ended : Instant} (h : 0 ≤ started.nanosecondsBetween ended)
    (k : Nat) : started.SecondsFit ended k ↔ k ≤ (started.wholeSecondsBetween ended).toNat := by
  unfold SecondsFit wholeSecondsBetween
  rw [Int.tdiv_eq_ediv_of_nonneg h]
  omega

/-- There are none in a time of less than a second, even if it runs backwards. -/
theorem wholeSeconds_of_lt {started ended : Instant}
    (h : started.nanosecondsBetween ended < 1000000000) :
    (started.wholeSecondsBetween ended).toNat = 0 := by
  unfold wholeSecondsBetween
  by_cases hpos : 0 ≤ started.nanosecondsBetween ended
  · rw [Int.tdiv_eq_ediv_of_nonneg hpos]
    omega
  · -- a negative time is truncated upwards, toward zero
    have hneg := Int.neg_tdiv (started.nanosecondsBetween ended) 1000000000
    rw [Int.tdiv_eq_ediv_of_nonneg (by omega)] at hneg
    omega

/-- One leap second at most is added or taken off, and only for an instant that lies in one. -/
theorem leapSecondsBetween_cases (started ended : Instant) :
    leapSecondsBetween started ended = 0 ∧
      (started.inLeapSecond = true → ended.secondOfDay ≤ started.secondOfDay) ∨
    leapSecondsBetween started ended = 1 ∧ started.inLeapSecond = true ∧
      started.secondOfDay < ended.secondOfDay ∨
    leapSecondsBetween started ended = -1 ∧ ended.inLeapSecond = true := by
  unfold leapSecondsBetween
  split
  · case isTrue hlater =>
    split
    · case isTrue hleap => exact .inr (.inl ⟨rfl, hleap, hlater⟩)
    · case isFalse hleap => exact .inl ⟨rfl, fun h => absurd h hleap⟩
  · case isFalse hlater =>
    split
    · split
      · case isTrue hleap => exact .inr (.inr ⟨rfl, hleap⟩)
      · exact .inl ⟨rfl, fun _ => by omega⟩
    · exact .inl ⟨rfl, fun _ => by omega⟩

/-- An instant lies in a leap second if its nanoseconds run past the second. -/
theorem inLeapSecond_iff (i : Instant) : i.inLeapSecond = true ↔ 1000000000 ≤ i.nanos :=
  decide_eq_true_iff

/-- Whether the calendar has the day of an instant, and its second has no more than a leap second. -/
def InCalendar (i : Instant) : Prop :=
  yearInRange (Date.ofDays (i.seconds / 86400)).year = true ∧ i.nanos < 2000000000

/-- Outside leap seconds `k` seconds fit if the instant `k` seconds later is not past the end.  A start
    in a leap second is no exception, provided that the end comes at a later time of day. -/
theorem secondsFit_iff {started ended : Instant} (hs : started.InCalendar)
    (hended : ended.inLeapSecond = false)
    (hstarted : started.inLeapSecond = true → started.secondOfDay < ended.secondOfDay) (k : Nat) :
    started.SecondsFit ended k ↔ started.later k ≤ ended := by
  have hsmall : started.nanos < 2000000000 := hs.2
  have hplain : ended.nanos < 1000000000 := by
    rw [← Bool.not_eq_true, inLeapSecond_iff] at hended
    omega
  have horder : started.later k ≤ ended ↔ started.seconds + k < ended.seconds ∨
      started.seconds + k = ended.seconds ∧
        (if k = 0 then started.nanos else started.nanos % 1000000000) ≤ ended.nanos := Iff.rfl
  have hcount := leapSecondsBetween_cases started ended
  rw [hended, inLeapSecond_iff] at hcount
  rw [inLeapSecond_iff] at hstarted
  rw [horder]
  unfold secondOfDay at hcount hstarted
  unfold SecondsFit nanosecondsBetween
  generalize leapSecondsBetween started ended = leap at hcount ⊢
  -- whether a leap second was counted in, and for which of the two instants
  rcases hcount with ⟨rfl, hleap⟩ | ⟨rfl, hleap, -⟩ | ⟨-, hleap⟩
  · have hnone : ¬ 1000000000 ≤ started.nanos := fun h => by
      have hbefore := hstarted h
      have hafter := hleap h
      omega
    split <;> omega
  · split <;> omega
  · cases hleap

/-- The calendar begins and ends less than `2 ^ 43` seconds from 1970. -/
theorem InCalendar.seconds {i : Instant} (h : i.InCalendar) :
    -8796093022208 < i.seconds ∧ i.seconds < 8796093022208 := by
  obtain ⟨hyear, -⟩ := h
  unfold yearInRange at hyear
  rw [Bool.and_eq_true, decide_eq_true_iff, decide_eq_true_iff] at hyear
  unfold Date.ofDays at hyear
  dsimp only at hyear
  -- the year of the era counts from 0 to 400
  generalize hday : ((i.seconds / 86400 + 719468) % 146097).toNat = day at hyear
  generalize hera : (i.seconds / 86400 + 719468) / 146097 = era at hyear
  have hday' : day < 146097 := by omega
  generalize hyears : (day - day / 1460 + day / 36524 - day / 146096) / 365 = years at hyear
  have hyears' : years ≤ 401 := by omega
  have hbounds : -657 ≤ era ∧ era ≤ 655 := by
    split at hyear <;> omega
  omega

/-- The time between two days of the calendar fits a 64-bit count of milliseconds, and its seconds fit
    53 bits. -/
theorem InCalendar.span {started ended : Instant} (hs : started.InCalendar) (he : ended.InCalendar) :
    (started.nanosecondsBetween ended).natAbs ≤ (2 ^ 63 - 1) * 1000000 ∧
    (started.wholeSecondsBetween ended).toNat < 2 ^ 53 := by
  have hspan : (started.nanosecondsBetween ended).natAbs < 2 ^ 53 * 1000000000 := by
    have hs' := hs.seconds
    have he' := he.seconds
    have hsn := hs.2
    have hen := he.2
    have hleap := leapSecondsBetween_cases started ended
    unfold nanosecondsBetween
    omega
  -- in seconds this is the bound of 53 bits, on either side of zero
  refine ⟨by omega, ?_⟩
  unfold wholeSecondsBetween
  by_cases h : 0 ≤ started.nanosecondsBetween ended
  · rw [Int.tdiv_eq_ediv_of_nonneg h]
    omega
  · have hshort : started.nanosecondsBetween ended < 1000000000 := by omega
    have hzero := wholeSeconds_of_lt hshort
    unfold wholeSecondsBetween at hzero
    rw [hzero]
    decide

/-- Less than a second fits between two instants of which the second comes first. -/
theorem InCalendar.nanosecondsBetween_lt {started ended : Instant} (he : ended.InCalendar)
    (h : ended < started) : started.nanosecondsBetween ended < 1000000000 := by
  have hsmall : ended.nanos < 2000000000 := he.2
  have horder : ended.seconds < started.seconds ∨
      ended.seconds = started.seconds ∧ ended.nanos < started.nanos := h
  have hcount := leapSecondsBetween_cases started ended
  rw [inLeapSecond_iff, inLeapSecond_iff] at hcount
  unfold secondOfDay at hcount
  unfold nanosecondsBetween
  generalize leapSecondsBetween started ended = leap at hcount ⊢
  omega

end Instant

/-! ## Headers

The standard reader takes every number of a header from four bytes or fewer. -/

namespace Wave

/-- Bytes write numbers of as many places to the base 256. -/
theorem littleEndian_lt (bytes : List UInt8) : littleEndian bytes < 256 ^ bytes.length := by
  -- the first byte is the lowest place
  induction bytes with
  | nil => decide
  | cons b rest ih =>
    have hb := b.toNat_lt
    rw [littleEndian, List.length_cons, Nat.pow_succ]
    omega

/-- A number of `n` bytes is below `256 ^ n`. -/
theorem number?_lt {n value : Nat} {bytes rest : List UInt8}
    (h : number? n bytes = some (value, rest)) : value < 256 ^ n := by
  unfold number? take? at h
  split at h
  · case isTrue hlen =>
    rw [Option.map_some, Option.some_inj, Prod.mk.injEq] at h
    rw [← h.1]
    have hlt := littleEndian_lt (bytes.take n)
    rwa [List.length_take, Nat.min_eq_left hlen] at hlt
  · cases h

/-- The rate of a layout is a number of four bytes. -/
theorem layout?_rate {length : Nat} {bytes rest : List UInt8} {l : Layout}
    (h : layout? length bytes = some (l, rest)) : l.sampleRate < 2 ^ 32 := by
  unfold layout? at h
  split at h
  · cases h
  · simp only [bind, Option.bind_eq_some_iff] at h
    obtain ⟨⟨tag, _⟩, -, ⟨channels, _⟩, -, ⟨rate, _⟩, hrate, _, -, _, -, _, -, h⟩ := h
    -- whichever form the chunk has, its tail leaves the layout alone
    have hkept : ∀ {sampleBytes : Nat} {tail : Option (List UInt8)},
        tail.bind (fun rest => some (⟨channels, rate, sampleBytes⟩, rest)) = some (l, rest) →
        l.sampleRate < 2 ^ 32 := by
      intro sampleBytes tail htail
      obtain ⟨_, -, hl⟩ := Option.bind_eq_some_iff.1 htail
      cases hl
      exact number?_lt hrate
    split at h
    · cases h
    split at h
    · exact hkept h
    split at h
    · exact hkept h
    split at h
    · exact hkept h
    · exact hkept h

/-- There are no more frames than bytes. -/
theorem frames?_le {l : Layout} {length frames : Nat} (h : frames? l length = some frames) :
    frames ≤ length := by
  unfold frames? at h
  dsimp only at h
  split at h
  · rw [Option.some_inj] at h
    rw [← h]
    exact Nat.le_trans (Nat.div_le_self _ _) (Nat.div_le_self _ _)
  · cases h

/-- Frames and rate of an accepted header are 32-bit numbers. -/
theorem chunks?_bounds {rounds : Nat} {layout : Option Layout} {bytes : List UInt8} {wave : Wave}
    (hl : ∀ l, layout = some l → l.sampleRate < 2 ^ 32) (h : chunks? rounds layout bytes = some wave) :
    wave.frames < 2 ^ 32 ∧ wave.sampleRate < 2 ^ 32 := by
  -- the layout that was read last is the one that counts, and it is carried along
  induction rounds generalizing layout bytes with
  | zero => cases h
  | succ rounds ih =>
    rw [chunks?] at h
    simp only [bind, Option.bind_eq_some_iff] at h
    obtain ⟨⟨id, _⟩, -, ⟨length, _⟩, hlength, h⟩ := h
    split at h
    · -- another layout replaces the one so far
      simp only [Option.bind_eq_some_iff] at h
      obtain ⟨⟨l, _⟩, hlayout, h⟩ := h
      refine ih ?_ h
      rintro _ ⟨⟩
      exact layout?_rate hlayout
    split at h
    · simp only [Option.bind_eq_some_iff] at h
      obtain ⟨_, -, h⟩ := h
      exact ih hl h
    split at h
    · simp only [Option.bind_eq_some_iff, Option.some_inj] at h
      obtain ⟨l, hlayout, frames, hframes, rfl⟩ := h
      exact ⟨Nat.lt_of_le_of_lt (frames?_le hframes) (number?_lt hlength), hl l hlayout⟩
    · simp only [Option.bind_eq_some_iff] at h
      obtain ⟨_, -, h⟩ := h
      exact ih hl h

/-- Whatever header is accepted, its frames and its rate are 32-bit numbers. -/
theorem ofBytes?_bounds {bytes : List UInt8} {wave : Wave} (h : ofBytes? bytes = some wave) :
    wave.frames < 2 ^ 32 ∧ wave.sampleRate < 2 ^ 32 := by
  unfold ofBytes? at h
  simp only [bind, Option.bind_eq_some_iff] at h
  obtain ⟨_, -, _, -, _, -, h⟩ := h
  split at h
  · exact chunks?_bounds (by rintro _ ⟨⟩) h
  · cases h

end Wave

/-! ## Artifacts

A reader is a parameter from here on. -/

namespace Recording

/-- What is known of a reader: it counts frames and rate in 32 bits. -/
structure Reader.Bounded (reader : Reader) : Prop where
  frames : ∀ {bytes wave}, reader.header? bytes = some wave → wave.frames < 2 ^ 32
  rate : ∀ {bytes wave}, reader.header? bytes = some wave → wave.sampleRate < 2 ^ 32

/-- The standard reader counts in 32 bits. -/
theorem Reader.standard_bounded : Reader.standard.Bounded where
  frames h := (Wave.ofBytes?_bounds h).1
  rate h := (Wave.ofBytes?_bounds h).2

/-- The header of the artifact at a URI states a length: it is a file with a path, it can be read, its
    header is accepted, and there are frames to be played at a rate. -/
structure Measures (reader : Reader) (files : Files) (uri : Uri) (wave : Wave) : Prop where
  file : reader.scheme uri = "file"
  header : ∃ path bytes, reader.path? uri = some path ∧ files.read? path = some bytes ∧
    reader.header? bytes = some wave
  frames : 0 < wave.frames
  rate : 0 < wave.sampleRate

section

variable {reader : Reader} {files : Files} {uri : Uri} {started ended : Instant}

/-- A length is measured exactly if the header states one, and it is the one that the header states. -/
theorem measure_eq_ok_iff (reader : Reader) (files : Files) (uri : Uri) (d : Duration) :
    measure files uri reader = .ok d ↔
      ∃ wave, Measures reader files uri wave ∧ d = .measured wave.frames wave.sampleRate := by
  unfold measure
  constructor
  · -- whatever is missing yields no length, so that only one case is left
    intro h
    split at h
    · case isTrue hfile =>
      split at h
      · cases h
      · case h_2 path hpath =>
        split at h
        · cases h
        · case h_2 wave hwave =>
          obtain ⟨bytes, hbytes, hheader⟩ := Option.bind_eq_some_iff.1 hwave
          split at h
          · cases h
          · case isFalse hempty =>
            cases h
            exact ⟨wave, ⟨hfile, ⟨path, bytes, hpath, hbytes, hheader⟩, by omega, by omega⟩, rfl⟩
    · cases h
  · rintro ⟨wave, ⟨hfile, ⟨path, bytes, hpath, hbytes, hheader⟩, hframes, hrate⟩, rfl⟩
    rw [if_pos hfile]
    simp only [hpath, hbytes, Option.bind_some, hheader]
    rw [if_neg (by omega)]

variable (reader files uri started ended) in
/-- What is reported of a recording that lies at `uri` and lasted from `started` to `ended`. -/
inductive Reported : Duration → Prop where
  /-- What the header states, whatever the instants are. -/
  | measured {wave : Wave} (measures : Measures reader files uri wave) :
      Reported (.measured wave.frames wave.sampleRate)
  /-- The most seconds that fit between the instants. -/
  | elapsed {k : Nat} (unmeasured : ∀ wave, ¬ Measures reader files uri wave)
      (fits : started.SecondsFit ended k) (most : ∀ n, started.SecondsFit ended n → n ≤ k) :
      Reported (.elapsed k)
  /-- Nothing, if not even no second fits. -/
  | backwards (unmeasured : ∀ wave, ¬ Measures reader files uri wave)
      (back : ¬ started.SecondsFit ended 0) : Reported (.elapsed 0)

/-- By the clock the most seconds are reported that fit. -/
theorem elapsed_reported (unmeasured : ∀ wave, ¬ Measures reader files uri wave)
    (started ended : Instant) :
    Reported reader files uri started ended (elapsed started ended) := by
  by_cases h : 0 ≤ started.nanosecondsBetween ended
  · exact .elapsed unmeasured ((Instant.secondsFit_iff_le h _).2 (Nat.le_refl _))
      fun n hn => (Instant.secondsFit_iff_le h n).1 hn
  · -- a time that runs backwards has not even room for no second
    have hback : ¬ started.SecondsFit ended 0 := by
      unfold Instant.SecondsFit
      omega
    unfold elapsed
    rw [Instant.wholeSeconds_of_lt (by omega)]
    exact .backwards unmeasured hback

end

end Recording

/-- The number that a length becomes, the instants being days of the calendar. -/
structure Duration.Fits (started ended : Instant) (d : Duration) : Prop where
  /-- The time between the instants fits a signed 64-bit count of milliseconds. -/
  span : (started.nanosecondsBetween ended).natAbs ≤ (2 ^ 63 - 1) * 1000000
  finite : d.seconds.isFinite = true
  /-- Whole seconds are reported exactly. -/
  exact : ∀ k, d = .elapsed k → 0 < d.seconds.ratio.2 ∧ d.seconds.ratio.1 = k * d.seconds.ratio.2

/-- The number is positive, and off by at most the `2 ^ 53`rd part of a quotient, which is as near as
    binary64 comes. -/
structure Seconds.Near (s : Seconds) (num den : Nat) : Prop where
  positive : 0 < s.bits.toNat
  defined : 0 < s.ratio.2
  near : 2 ^ 53 * ((s.ratio.1 * den : Nat) - ((num * s.ratio.2 : Nat) : Int)).natAbs ≤ num * s.ratio.2

namespace Recording

section

variable {reader : Reader} {files : Files} {uri : Uri} {wave : Wave}

/-- What a header states is reported as a finite number, and as the one that it states. -/
theorem Measures.number (h : Measures reader files uri wave) (hreader : reader.Bounded) :
    (Duration.measured wave.frames wave.sampleRate).seconds.isFinite = true ∧
    (Duration.measured wave.frames wave.sampleRate).seconds.Near wave.frames wave.sampleRate := by
  obtain ⟨_, _, -, -, hheader⟩ := h.header
  have hframes := hreader.frames hheader
  have hrate := hreader.rate hheader
  obtain ⟨hpos, hfinite⟩ := Seconds.ofRatio_word h.frames h.rate (by omega) (by omega)
  obtain ⟨hdefined, hnear⟩ := Seconds.ofRatio_near h.frames h.rate (by omega) (by omega)
  exact ⟨hfinite, hpos, hdefined, hnear⟩

/-- Whole seconds below `2 ^ 53` are a finite number. -/
theorem elapsed_finite {k : Nat} (h : k < 2 ^ 53) : (Duration.elapsed k).seconds.isFinite = true := by
  by_cases h0 : k = 0
  · subst h0
    decide
  · exact (Seconds.ofRatio_word (Nat.pos_of_ne_zero h0) Nat.one_pos (by omega) (by decide)).2

/-- What is reported is what the header states, or else what the clock does. -/
theorem finalDuration_eq (reader : Reader) (files : Files) (uri : Uri) (started ended : Instant) :
    (∃ wave, Measures reader files uri wave ∧
      finalDuration files uri started ended reader = .measured wave.frames wave.sampleRate) ∨
    ((∀ wave, ¬ Measures reader files uri wave) ∧
      finalDuration files uri started ended reader = elapsed started ended) := by
  unfold finalDuration
  -- the clock takes the place of whatever failed
  cases h : measure files uri reader with
  | ok d => exact .inl ((measure_eq_ok_iff reader files uri d).1 h)
  | error e =>
    refine .inr ⟨fun wave hwave => ?_, rfl⟩
    have hok := (measure_eq_ok_iff reader files uri _).2 ⟨wave, hwave, rfl⟩
    rw [h] at hok
    cases hok

end

end Recording

namespace Sample

/-- Where a recording of four frames lies. -/
def artifact : Uri := ⟨"file:///rec/call.wav"⟩

/-- The file there. -/
def disk : Files :=
  { entries := [(Text.toUtf8 "/rec/call.wav", Wave.silence 1 8000 16 4)] }

/-- Its header states four frames at a rate of 8000. -/
theorem artifact_measures : Recording.Measures .standard disk artifact ⟨1, 8000, 4⟩ where
  file := by decide
  header := ⟨Text.toUtf8 "/rec/call.wav", Wave.silence 1 8000 16 4, by decide +kernel,
    by decide +kernel, by decide +kernel⟩
  frames := by decide
  rate := by decide

/-- An artifact that is no file. -/
def elsewhere : Uri := ⟨"http://media.example.com/rec.wav"⟩

def pickedUp : Instant := ⟨1700000000, 900000000⟩

def hungUp : Instant := ⟨1700000008, 700000000⟩

/-- A leap second at 02:59:60, and the instant at which it is over. -/
def leaping : Instant := ⟨1700017199, 1000000000⟩

def leapt : Instant := ⟨1700017200, 0⟩

/-- Both instants are days of the calendar. -/
theorem pickedUp_inCalendar : pickedUp.InCalendar := ⟨by decide, by decide⟩

theorem hungUp_inCalendar : hungUp.InCalendar := ⟨by decide, by decide⟩

end Sample

end CallMedia
