-- Which settings files are taken, which are refused, and on which the program
-- breaks off. A file is refused when its document is malformed or no mapping,
-- or when it asks for a negative depth. It breaks the program off when it is
-- no text, when a scalar in it names no value of its kind, or when a number
-- that a setting takes as a text is too long to be written.
import ImportLift.Service

namespace ImportLift

instance exceptDecidableEq {ε α : Type} [DecidableEq ε] [DecidableEq α] :
    DecidableEq (Except ε α)
  | .ok a, .ok b => decidable_of_iff (a = b) ⟨congrArg _, Except.ok.inj⟩
  | .error e, .error f => decidable_of_iff (e = f) ⟨congrArg _, Except.error.inj⟩
  | .ok _, .error _ => .isFalse nofun
  | .error _, .ok _ => .isFalse nofun

/-! ## Numbers that are too long -/

namespace Integer

theorem write_of_lt {n : Int} (h : n.natAbs < Nat.pow 10 maxDigits) :
    write n = .ok (Text.ofInt n) :=
  if_neg (Nat.not_le.mpr h)

theorem write_of_le {n : Int} (h : Nat.pow 10 maxDigits ≤ n.natAbs) :
    write n = .error .unwritable :=
  if_pos h

end Integer

namespace Data

/-- The value is no integer that is too long to be a text. -/
def Writable (d : Data) : Prop := ∀ n, d = .int n → n.natAbs < Nat.pow 10 Integer.maxDigits

/-- No item of the value, if it is a list, is an integer that is too long to be a text. -/
def ItemsWritable (d : Data) : Prop := ∀ items, d = .list items → ∀ item ∈ items, item.Writable

theorem asText?_of_writable {d : Data} (h : d.Writable) : ∃ found, d.asText? = .ok found := by
  cases d with
  | int n => exact ⟨_, by rw [asText?, Integer.write_of_lt (h n rfl)]; rfl⟩
  | _ => exact ⟨_, rfl⟩

theorem asText?_of_not_writable {d : Data} (h : ¬ d.Writable) : d.asText? = .error .unwritable := by
  cases d with
  | int n =>
    have hlong : ¬ n.natAbs < Nat.pow 10 Integer.maxDigits := by
      intro hshort
      apply h
      rintro _ ⟨⟩
      exact hshort
    rw [asText?, Integer.write_of_le (Nat.le_of_not_lt hlong)]
    rfl
  | _ => exact absurd nofun h

theorem mapM_asText?_of_writable {items : List Data} (h : ∀ item ∈ items, item.Writable) :
    ∃ found, items.mapM asText? = .ok found := by
  induction items with
  | nil => exact ⟨[], rfl⟩
  | cons item items ih =>
    obtain ⟨hitem, hitems⟩ := List.forall_mem_cons.mp h
    obtain ⟨first, hfirst⟩ := asText?_of_writable hitem
    obtain ⟨rest, hrest⟩ := ih hitems
    exact ⟨first :: rest, by rw [List.mapM_cons, hfirst, hrest]; rfl⟩

theorem mapM_asText?_of_not_writable {items : List Data} (h : ¬ ∀ item ∈ items, item.Writable) :
    items.mapM asText? = .error .unwritable := by
  induction items with
  | nil => simp at h
  | cons item items ih =>
    rw [List.mapM_cons]
    by_cases hitem : item.Writable
    · obtain ⟨first, hfirst⟩ := asText?_of_writable hitem
      have hitems : ¬ ∀ item ∈ items, item.Writable := by
        intro hall
        exact h (List.forall_mem_cons.mpr ⟨hitem, hall⟩)
      rw [hfirst, ih hitems]
      rfl
    · rw [asText?_of_not_writable hitem]
      rfl

theorem asTexts_of_writable {d : Data} (h : d.ItemsWritable) : ∃ found, d.asTexts = .ok found := by
  cases d with
  | list items =>
    obtain ⟨found, hfound⟩ := mapM_asText?_of_writable (h items rfl)
    exact ⟨_, by rw [asTexts, hfound]; rfl⟩
  | _ => exact ⟨_, rfl⟩

theorem asTexts_of_not_writable {d : Data} (h : ¬ d.ItemsWritable) :
    d.asTexts = .error .unwritable := by
  cases d with
  | list items =>
    have hlong : ¬ ∀ item ∈ items, item.Writable := by
      intro hshort
      apply h
      rintro _ ⟨⟩
      exact hshort
    rw [asTexts, mapM_asText?_of_not_writable hlong]
    rfl
  | _ => exact absurd nofun h

end Data

namespace Settings

/-! ## Stages of reading the fields -/

/-- A stage goes on exactly if the condition holds, and what it gives then is as said; else it
stops at a number that is too long to be a text. -/
structure Stage {α : Type} (stage : Except SettingsFault α) (fits : Prop) (gives : α → Prop) :
    Prop where
  goes : fits → ∃ a, stage = .ok a ∧ gives a
  stops : ¬ fits → stage = .error (.noText .unwritable)

section

variable {α β : Type} {stage : Except SettingsFault α} {next : α → Except SettingsFault β}
  {fits more : Prop} {gives : β → Prop}

theorem Stage.bind {given : α → Prop} (h : Stage stage fits given)
    (hnext : ∀ a, Stage (next a) more gives) : Stage (stage >>= next) (fits ∧ more) gives := by
  constructor
  · rintro ⟨hfits, hmore⟩
    obtain ⟨a, rfl, -⟩ := h.goes hfits
    exact (hnext a).goes hmore
  · intro hnot
    by_cases hfits : fits
    · obtain ⟨a, rfl, -⟩ := h.goes hfits
      exact (hnext a).stops fun hmore => hnot ⟨hfits, hmore⟩
    · rw [h.stops hfits]
      rfl

theorem Stage.last {given : α → Prop} (h : Stage stage fits given)
    (hnext : ∀ a, ∃ b, next a = .ok b ∧ gives b) : Stage (stage >>= next) fits gives := by
  constructor
  · intro hfits
    obtain ⟨a, rfl, -⟩ := h.goes hfits
    exact hnext a
  · intro hnot
    rw [h.stops hnot]
    rfl

end

theorem stage_textField (fields : List (Data × Data)) (name : Text) :
    Stage (textField fields name) (Data.field fields name).Writable fun _ => True := by
  constructor
  · intro h
    obtain ⟨found, hfound⟩ := Data.asText?_of_writable h
    exact ⟨found, by rw [textField, hfound]; rfl, trivial⟩
  · intro h
    rw [textField, Data.asText?_of_not_writable h]
    rfl

theorem stage_textsField (fields : List (Data × Data)) (name : Text) :
    Stage (textsField fields name) (Data.field fields name).ItemsWritable fun _ => True := by
  constructor
  · intro h
    obtain ⟨found, hfound⟩ := Data.asTexts_of_writable h
    exact ⟨found, by rw [textsField, hfound]; rfl, trivial⟩
  · intro h
    rw [textsField, Data.asTexts_of_not_writable h]
    rfl

/-! ## Fields -/

/-- The assumed depth of the library that the fields ask for, the default where they ask for
none. -/
def depthOf (fields : List (Data × Data)) : Int :=
  ((Data.field fields "fallback_depth").asInt?).getD ({} : Options).fallbackDepth

/-- No number that a setting takes as a text is too long. -/
def AllWritable (fields : List (Data × Data)) : Prop :=
  let relocation := (Data.field fields "relocation").asFields
  let baseClass := (Data.field fields "base_class").asFields
  (Data.field fields "library_segment").Writable ∧
    (Data.field fields "deprecated_imports").ItemsWritable ∧
    (Data.field relocation "prefixes").ItemsWritable ∧
    (Data.field fields "templates_dir").Writable ∧
    (Data.field relocation "namespace").Writable ∧
    (Data.field baseClass "legacy").Writable ∧
    (Data.field baseClass "modern").Writable ∧
    (Data.field fields "exclude_paths").ItemsWritable

/-- Fields that do not ask for a negative depth make settings unless a number in them is too
long. -/
theorem stage_ofFields (root : Path) {fields : List (Data × Data)} (hdepth : 0 ≤ depthOf fields) :
    Stage (ofFields root fields) (AllWritable fields) fun s =>
      s.root = root ∧ s.options.fallbackDepth = depthOf fields := by
  have hnot :
      ¬ ((Data.field fields "fallback_depth").asInt?).getD ({} : Options).fallbackDepth < 0 :=
    Int.not_lt.mpr hdepth
  refine (stage_textField fields _).bind fun segment => ?_
  dsimp only
  rw [if_neg hnot]
  refine (stage_textsField fields _).bind fun deprecated => ?_
  refine (stage_textsField _ _).bind fun moving => ?_
  refine (stage_textField fields _).bind fun templatesDir => ?_
  refine (stage_textField _ _).bind fun space => ?_
  refine (stage_textField _ _).bind fun legacy => ?_
  refine (stage_textField _ _).bind fun modern => ?_
  exact (stage_textsField fields _).last fun exclude => ⟨_, rfl, rfl, rfl⟩

/-- Fields that ask for a negative depth make none. -/
theorem ofFields_of_negative (root : Path) {fields : List (Data × Data)}
    (hsegment : (Data.field fields "library_segment").Writable) (hdepth : depthOf fields < 0) :
    ofFields root fields = .error .negativeDepth := by
  obtain ⟨segment, hread, -⟩ := (stage_textField fields "library_segment").goes hsegment
  have hneg : ((Data.field fields "fallback_depth").asInt?).getD ({} : Options).fallbackDepth < 0 :=
    hdepth
  unfold ofFields
  rw [hread]
  exact if_pos hneg

/-- The library segment is looked at before the depth. -/
theorem ofFields_of_long_segment (root : Path) {fields : List (Data × Data)}
    (hsegment : ¬ (Data.field fields "library_segment").Writable) :
    ofFields root fields = .error (.noText .unwritable) := by
  unfold ofFields
  dsimp only
  rw [(stage_textField fields "library_segment").stops hsegment]
  rfl

/-! ## Files -/

/-- The bytes are this text, with every line break as one line feed. -/
def Decodes (bytes : List UInt8) (text : Text) : Prop :=
  ∃ written, Utf8.decode bytes = .ok written ∧ text = Text.unifyBreaks written

/-- The bytes are a text that is not blank, and reading its document comes to this. -/
def Holds (bytes : List UInt8) (found : Except Yaml.Fault Data) : Prop :=
  ∃ text, Decodes bytes text ∧ text.allBlank = false ∧ Yaml.read depth text = found

/-- The bytes tell these fields: the fields of a mapping, and none in a blank text and in a
document that says nothing. -/
inductive Tells (bytes : List UInt8) : List (Data × Data) → Prop
  | blank {text : Text} (h : Decodes bytes text) (hblank : text.allBlank = true) : Tells bytes []
  | mapping {fields : List (Data × Data)} (h : Holds bytes (.ok (.mapping fields))) :
      Tells bytes fields
  | void {data : Data} (h : Holds bytes (.ok data)) (hvoid : data.isVoid = true) : Tells bytes []

/-- The file is taken. -/
def Taken (bytes : List UInt8) : Prop :=
  ∃ fields, Tells bytes fields ∧ 0 ≤ depthOf fields ∧ AllWritable fields

/-- The file is refused, and why. -/
inductive Refused (bytes : List UInt8) : SettingsFault → Prop
  | malformed (h : Holds bytes (.error .malformed)) : Refused bytes (.document .malformed)
  | noMapping {data : Data} (h : Holds bytes (.ok data))
      (hmapping : ∀ fields, data ≠ .mapping fields) (hvoid : data.isVoid = false) :
      Refused bytes .noMapping
  | negativeDepth {fields : List (Data × Data)} (h : Tells bytes fields)
      (hsegment : (Data.field fields "library_segment").Writable) (hdepth : depthOf fields < 0) :
      Refused bytes .negativeDepth

/-- The program breaks off on the file, and at what. -/
inductive Breaks (bytes : List UInt8) : SettingsFault → Prop
  | noText {fault : Utf8.Fault} (h : Utf8.decode bytes = .error fault) :
      Breaks bytes (.unreadable (.text fault))
  | noValue {fault : Yaml.Fault} (h : Holds bytes (.error fault)) (hne : fault ≠ .malformed) :
      Breaks bytes (.document fault)
  | longSegment {fields : List (Data × Data)} (h : Tells bytes fields)
      (hsegment : ¬ (Data.field fields "library_segment").Writable) :
      Breaks bytes (.noText .unwritable)
  | longNumber {fields : List (Data × Data)} (h : Tells bytes fields) (hdepth : 0 ≤ depthOf fields)
      (hlong : ¬ AllWritable fields) : Breaks bytes (.noText .unwritable)

theorem fieldsOf_of_nonblank {text : Text} (h : text.allBlank = false) :
    fieldsOf text =
      match Yaml.read depth text with
      | .error fault => .error (.document fault)
      | .ok (.mapping fields) => .ok fields
      | .ok data => if data.isVoid then .ok [] else .error .noMapping := by
  unfold fieldsOf
  rw [h]
  cases Yaml.read depth text with
  | error fault => rfl
  | ok data => cases data <;> rfl

/-- Bytes tell fields, are refused or break the program off. -/
theorem tells_or_not (bytes : List UInt8) :
    (∃ fields, Tells bytes fields) ∨ (∃ f, Refused bytes f) ∨ ∃ f, Breaks bytes f := by
  cases hdecode : Utf8.decode bytes with
  | error fault => exact .inr (.inr ⟨_, .noText hdecode⟩)
  | ok written =>
    have htext : Decodes bytes (Text.unifyBreaks written) := ⟨written, hdecode, rfl⟩
    by_cases hblank : (Text.unifyBreaks written).allBlank = true
    · exact .inl ⟨[], .blank htext hblank⟩
    have hholds : Holds bytes (Yaml.read depth (Text.unifyBreaks written)) :=
      ⟨_, htext, by simpa using hblank, rfl⟩
    cases hread : Yaml.read depth (Text.unifyBreaks written) with
    | error fault =>
      rw [hread] at hholds
      by_cases hfault : fault = .malformed
      · exact .inr (.inl ⟨_, .malformed (hfault ▸ hholds)⟩)
      · exact .inr (.inr ⟨_, .noValue hholds hfault⟩)
    | ok data =>
      rw [hread] at hholds
      by_cases hmapping : ∃ fields, data = .mapping fields
      · obtain ⟨fields, rfl⟩ := hmapping
        exact .inl ⟨fields, .mapping hholds⟩
      · by_cases hvoid : data.isVoid = true
        · exact .inl ⟨[], .void hholds hvoid⟩
        · refine .inr (.inl ⟨_, .noMapping hholds ?_ (by simpa using hvoid)⟩)
          rintro fields rfl
          exact hmapping ⟨fields, rfl⟩

theorem taken_or_refused_or_breaks (bytes : List UInt8) :
    Taken bytes ∨ (∃ f, Refused bytes f) ∨ ∃ f, Breaks bytes f := by
  rcases tells_or_not bytes with ⟨fields, htells⟩ | hrest
  · by_cases hdepth : 0 ≤ depthOf fields
    · by_cases hall : AllWritable fields
      · exact .inl ⟨fields, htells, hdepth, hall⟩
      · exact .inr (.inr ⟨_, .longNumber htells hdepth hall⟩)
    · by_cases hsegment : (Data.field fields "library_segment").Writable
      · exact .inr (.inl ⟨_, .negativeDepth htells hsegment (Int.not_le.mp hdepth)⟩)
      · exact .inr (.inr ⟨_, .longSegment htells hsegment⟩)
  · exact .inr hrest

section

variable {t : FileTree} {shown : Text} {p named : Path} {bytes : List UInt8}
  (hplace : place t p = .ok named) (hpossible : named.any Path.isImpossible = false)
  (hfile : t.stat named.resolve = .ok (.file bytes))

include hplace hpossible hfile

theorem load_eq :
    load t shown p =
      match Utf8.decode bytes with
      | .error fault => .error (.unreadable (.text fault))
      | .ok written =>
        (fieldsOf (Text.unifyBreaks written)).bind (ofFields named.resolve.parent) := by
  have hprobe : t.probe named.resolve = .ok (some (.file bytes)) := by
    rw [FileTree.probe, hfile]
  rw [load, hplace]
  dsimp only
  rw [if_neg (ne_true_of_eq_false hpossible), hprobe]
  dsimp only
  rw [FileTree.read, FileTree.readBytes, hfile]
  dsimp only
  cases Utf8.decode bytes with
  | error fault => rfl
  | ok written => rfl

theorem load_of_decodes {text : Text} (h : Decodes bytes text) :
    load t shown p = (fieldsOf text).bind (ofFields named.resolve.parent) := by
  obtain ⟨written, hwritten, rfl⟩ := h
  rw [load_eq hplace hpossible hfile, hwritten]

theorem load_of_tells {fields : List (Data × Data)} (h : Tells bytes fields) :
    load t shown p = ofFields named.resolve.parent fields := by
  suffices hfields : ∃ text, Decodes bytes text ∧ fieldsOf text = .ok fields by
    obtain ⟨text, htext, hfields⟩ := hfields
    rw [load_of_decodes hplace hpossible hfile htext, hfields, Except.bind]
  cases h with
  | blank h hblank => exact ⟨_, h, if_pos hblank⟩
  | mapping h =>
    obtain ⟨text, htext, hblank, hread⟩ := h
    exact ⟨text, htext, by rw [fieldsOf_of_nonblank hblank, hread]⟩
  | @void data h hvoid =>
    obtain ⟨text, htext, hblank, hread⟩ := h
    refine ⟨text, htext, ?_⟩
    rw [fieldsOf_of_nonblank hblank, hread]
    cases data with
    | mapping fields =>
      obtain rfl : fields = [] := List.isEmpty_iff.mp hvoid
      rfl
    | _ => exact if_pos hvoid

theorem load_of_taken (h : Taken bytes) :
    ∃ s, load t shown p = .ok s ∧ s.root = named.resolve.parent ∧ 0 ≤ s.options.fallbackDepth := by
  obtain ⟨fields, htells, hdepth, hall⟩ := h
  obtain ⟨s, hs, hroot, hkept⟩ := (stage_ofFields named.resolve.parent hdepth).goes hall
  exact ⟨s, (load_of_tells hplace hpossible hfile htells).trans hs, hroot, hkept ▸ hdepth⟩

theorem load_of_refused {f : SettingsFault} (h : Refused bytes f) : load t shown p = .error f := by
  cases h with
  | malformed h =>
    obtain ⟨text, htext, hblank, hread⟩ := h
    rw [load_of_decodes hplace hpossible hfile htext, fieldsOf_of_nonblank hblank, hread,
      Except.bind]
  | @noMapping data h hmapping hvoid =>
    obtain ⟨text, htext, hblank, hread⟩ := h
    have hnone : fieldsOf text = .error .noMapping := by
      rw [fieldsOf_of_nonblank hblank, hread]
      cases data with
      | mapping fields => exact absurd rfl (hmapping fields)
      | _ => exact if_neg (by simp [hvoid])
    rw [load_of_decodes hplace hpossible hfile htext, hnone, Except.bind]
  | negativeDepth h hsegment hdepth =>
    rw [load_of_tells hplace hpossible hfile h, ofFields_of_negative _ hsegment hdepth]

theorem load_of_breaks {f : SettingsFault} (h : Breaks bytes f) : load t shown p = .error f := by
  cases h with
  | noText h => rw [load_eq hplace hpossible hfile, h]
  | noValue h hne =>
    obtain ⟨text, htext, hblank, hread⟩ := h
    rw [load_of_decodes hplace hpossible hfile htext, fieldsOf_of_nonblank hblank, hread,
      Except.bind]
  | longSegment h hsegment =>
    rw [load_of_tells hplace hpossible hfile h, ofFields_of_long_segment _ hsegment]
  | longNumber h hdepth hlong =>
    rw [load_of_tells hplace hpossible hfile h, (stage_ofFields _ hdepth).stops hlong]

theorem taken_of_load {s : Settings} (h : load t shown p = .ok s) : Taken bytes := by
  rcases taken_or_refused_or_breaks bytes with htaken | ⟨f, hrefused⟩ | ⟨f, hbreaks⟩
  · exact htaken
  · cases h.symm.trans (load_of_refused hplace hpossible hfile hrefused)
  · cases h.symm.trans (load_of_breaks hplace hpossible hfile hbreaks)

theorem refused_or_breaks_of_load {f : SettingsFault} (h : load t shown p = .error f) :
    Refused bytes f ∨ Breaks bytes f := by
  rcases taken_or_refused_or_breaks bytes with htaken | ⟨g, hrefused⟩ | ⟨g, hbreaks⟩
  · obtain ⟨s, hs, -⟩ := load_of_taken hplace hpossible hfile htaken
    cases h.symm.trans hs
  · obtain rfl : f = g := Except.error.inj
      (h.symm.trans (load_of_refused hplace hpossible hfile hrefused))
    exact .inl hrefused
  · obtain rfl : f = g := Except.error.inj
      (h.symm.trans (load_of_breaks hplace hpossible hfile hbreaks))
    exact .inr hbreaks

end

/-- A fault that is told to whoever asked; any other breaks the program off. -/
def isRefusal : SettingsFault → Bool
  | .document .malformed | .noMapping | .negativeDepth => true
  | _ => false

/-- The service answers a refusal as a bad request, and nothing else about settings. -/
theorem status_eq_400_iff (f : SettingsFault) :
    (Service.troubled (.settings f)).status = 400 ↔ isRefusal f = true := by
  have hbroken : Service.broken.status ≠ 400 := by decide
  cases f with
  | document fault =>
    cases fault with
    | malformed => exact ⟨fun _ => rfl, fun _ => rfl⟩
    | _ => exact ⟨fun h => absurd h hbroken, nofun⟩
  | noMapping => exact ⟨fun _ => rfl, fun _ => rfl⟩
  | negativeDepth => exact ⟨fun _ => rfl, fun _ => rfl⟩
  | unreadable fault =>
    refine ⟨fun h => ?_, nofun⟩
    unfold Service.troubled at h
    dsimp only at h
    split at h
    all_goals first | contradiction | exact absurd h hbroken | cases h
  | _ => exact ⟨fun h => absurd h hbroken, nofun⟩

theorem Refused.isRefusal {bytes : List UInt8} {f : SettingsFault} (h : Refused bytes f) :
    isRefusal f = true := by
  cases h <;> rfl

theorem Breaks.not_isRefusal {bytes : List UInt8} {f : SettingsFault} (h : Breaks bytes f) :
    Settings.isRefusal f = false := by
  cases h with
  | @noValue fault h hne => cases fault <;> first | rfl | contradiction
  | _ => rfl

/-- A settings file is taken exactly if it is blank or its document is void or a mapping, without
a negative depth and without a number that is too long; it then has a depth that is not negative.
It is refused exactly if its document is malformed or of another kind, or asks for a negative
depth. On every other file the program breaks off: the bytes are no text, a scalar names no value
of its kind, or a number is too long to be a text. -/
theorem a_settings_file_is_taken_or_refused_or_breaks_off (t : FileTree) (shown : Text)
    (p named : Path) (bytes : List UInt8) (hplace : place t p = .ok named)
    (hpossible : named.any Path.isImpossible = false)
    (hfile : t.stat named.resolve = .ok (.file bytes)) :
    ((∃ s, load t shown p = .ok s) ↔ Taken bytes) ∧
    (∀ s, load t shown p = .ok s →
      s.root = named.resolve.parent ∧ 0 ≤ s.options.fallbackDepth) ∧
    (∀ f, (load t shown p = .error f ∧ isRefusal f = true) ↔ Refused bytes f) ∧
    (∀ f, (load t shown p = .error f ∧ isRefusal f = false) ↔ Breaks bytes f) := by
  refine ⟨⟨?_, fun h => ?_⟩, fun s hs => ?_, fun f => ⟨?_, fun h => ⟨?_, h.isRefusal⟩⟩,
    fun f => ⟨?_, fun h => ⟨?_, h.not_isRefusal⟩⟩⟩
  · rintro ⟨s, hs⟩
    exact taken_of_load hplace hpossible hfile hs
  · obtain ⟨s, hs, -⟩ := load_of_taken hplace hpossible hfile h
    exact ⟨s, hs⟩
  · obtain ⟨s', hs', hparts⟩ :=
      load_of_taken hplace hpossible hfile (taken_of_load hplace hpossible hfile hs)
    obtain rfl : s = s' := Except.ok.inj (hs.symm.trans hs')
    exact hparts
  · rintro ⟨hf, hrefusal⟩
    refine (refused_or_breaks_of_load hplace hpossible hfile hf).resolve_right fun hbreaks => ?_
    rw [hbreaks.not_isRefusal] at hrefusal
    cases hrefusal
  · exact load_of_refused hplace hpossible hfile h
  · rintro ⟨hf, hbroken⟩
    refine (refused_or_breaks_of_load hplace hpossible hfile hf).resolve_left fun hrefused => ?_
    rw [hrefused.isRefusal] at hbroken
    cases hbroken
  · exact load_of_breaks hplace hpossible hfile h

/-- A file of each kind: a depth, a list, and a day that no month has. -/
theorem files_of_each_kind :
    Taken (Utf8.encode "fallback_depth: 3") ∧ Refused (Utf8.encode "- one") .noMapping ∧
      Breaks (Utf8.encode "on: 2020-13-01") (.document (.noValue "month must be in 1..12")) := by
  let top (bytes : List UInt8) : FileTree := { entries := [([fileName], .file bytes)] }
  have hplace (bytes : List UInt8) : place (top bytes) [] = .ok [fileName] := rfl
  have hfile (bytes : List UInt8) :
      (top bytes).stat (Path.resolve [fileName]) = .ok (.file bytes) := rfl
  have hkinds (bytes : List UInt8) :=
    a_settings_file_is_taken_or_refused_or_breaks_off (top bytes) [] [] [fileName] bytes
      (hplace bytes) (by decide) (hfile bytes)
  refine ⟨?_, ?_, ?_⟩
  · exact (hkinds _).1.mp ⟨{ root := [], options := { fallbackDepth := 3 } }, by decide +kernel⟩
  · exact ((hkinds _).2.2.1 _).mp ⟨by decide +kernel, rfl⟩
  · exact ((hkinds _).2.2.2 _).mp ⟨by decide +kernel, rfl⟩

/-- Whether an empty list was read. -/
def isEmptyList : Except Yaml.Fault Data → Bool
  | .ok (.list items) => items.isEmpty
  | _ => false

theorem eq_of_isEmptyList {found : Except Yaml.Fault Data} (h : isEmptyList found = true) :
    found = .ok (.list []) := by
  cases found with
  | error fault => cases h
  | ok data =>
    cases data with
    | list items => rw [List.isEmpty_iff.mp h]
    | _ => cases h

/-- A byte that starts no character and a day that no month has break the program off, and an
empty list is taken for no settings. -/
theorem a_bad_file_is_not_always_refused :
    let top (bytes : List UInt8) : FileTree := { entries := [([fileName], .file bytes)] }
    load (top [0xFF]) [] [] = .error (.unreadable (.text ⟨0, [0xFF], .badStart⟩)) ∧
      load (top (Utf8.encode "on: 2020-13-01")) [] [] =
        .error (.document (.noValue "month must be in 1..12")) ∧
      isRefusal (.unreadable (.text ⟨0, [0xFF], .badStart⟩)) = false ∧
      isRefusal (.document (.noValue "month must be in 1..12")) = false ∧
      Holds (Utf8.encode "[]") (.ok (.list [])) ∧
      load (top (Utf8.encode "[]")) [] [] = .ok { root := [] } := by
  intro top
  refine ⟨by decide +kernel, by decide +kernel, rfl, rfl, ?_, by decide +kernel⟩
  exact ⟨"[]", ⟨"[]", by decide +kernel, by decide +kernel⟩, by decide,
    eq_of_isEmptyList (by decide +kernel)⟩

end Settings

end ImportLift
