import Mathlib.Data.List.Basic
import SchemaBuild.Build.Run
import SchemaBuild.Config.Packages

/-!
# The packages that are asked for

A configuration lists packages as texts, and a build takes names. Whether the texts are names, and which
failure is reported if they are not, is told by the rules for names alone (`PackageName.Breaks`):

* `PackageName.ofString?_eq_error_iff` — a text that is no name is reported with the first rule that it
  breaks (`PackageName.BreaksFirst`);
* `Config.namesOf_eq_ok_iff` and `Config.namesOf_eq_error_iff` — a list of texts is a list of names, or
  its first text that is no name is reported;
* `Config.packageNames_exact` — so a configuration has packages to build, or it is reported why not.
-/

namespace SchemaBuild

/-! ### Rules for names -/

namespace Text

/-- The white space of Unicode, character by character. -/
def whiteSpace : List Char :=
  ['\t', '\n', '\x0b', '\x0c', '\r', ' ', '\u0085', '\u00a0', '\u1680', '\u2000', '\u2001', '\u2002',
    '\u2003', '\u2004', '\u2005', '\u2006', '\u2007', '\u2008', '\u2009', '\u200a', '\u2028', '\u2029',
    '\u202f', '\u205f', '\u3000']

/-- A character is blank if it is one of them. -/
theorem isBlank_iff_mem {c : Char} : isBlank c = true ↔ c ∈ whiteSpace := by
  -- both sides are about the number of the character
  have hmem : c ∈ whiteSpace ↔ c.toNat ∈ whiteSpace.map Char.toNat :=
    (List.mem_map_of_injective fun a b => Char.toNat_inj.mp).symm
  rw [hmem]
  simp [isBlank, blankRanges, whiteSpace]
  omega

end Text

namespace PackageName

/-- The text breaks the rule for names that the flaw is about. -/
def Breaks (text : String) : Flaw → Prop
  | .empty => text = ""
  | .blank => ∃ c ∈ text.toList, c ∈ Text.whiteSpace
  | .separator => '/' ∈ text.toList ∨ '\\' ∈ text.toList

/-- The rules in the order in which they count. -/
def Flaw.order : List Flaw := [.empty, .blank, .separator]

/-- The text breaks the rule, and none that comes before it. -/
def BreaksFirst (text : String) (flaw : Flaw) : Prop :=
  Breaks text flaw ∧
    ∃ before after, Flaw.order = before ++ flaw :: after ∧ ∀ earlier ∈ before, ¬ Breaks text earlier

variable {text : String}

theorem breaks_empty_iff : Breaks text .empty ↔ text.toList.isEmpty = true := by
  rw [Breaks, List.isEmpty_iff, String.toList_eq_nil_iff]

theorem breaks_blank_iff : Breaks text .blank ↔ text.toList.any Text.isBlank = true := by
  simp only [Breaks, List.any_eq_true, Text.isBlank_iff_mem]

theorem breaks_separator_iff : Breaks text .separator ↔ text.toList.any isSeparator = true := by
  simp only [Breaks, List.any_eq_true, isSeparator, Bool.or_eq_true, decide_eq_true_eq]
  constructor
  · -- either character is a separator
    rintro (hslash | hbackslash)
    · exact ⟨_, hslash, .inl rfl⟩
    · exact ⟨_, hbackslash, .inr rfl⟩
  · -- a separator is one of the two
    rintro ⟨c, hmem, rfl | rfl⟩
    · exact .inl hmem
    · exact .inr hmem

instance (text : String) (flaw : Flaw) : Decidable (Breaks text flaw) :=
  match flaw with
  | .empty => decidable_of_iff _ breaks_empty_iff.symm
  | .blank => decidable_of_iff _ breaks_blank_iff.symm
  | .separator => decidable_of_iff _ breaks_separator_iff.symm

/-- The rules are tried one after the other. -/
theorem flaw?_eq_find? (text : String) :
    flaw? text = Flaw.order.find? fun flaw => decide (Breaks text flaw) := by
  unfold flaw? Flaw.order
  simp only [List.find?_cons, List.find?_nil]
  -- a rule that is kept leaves it to the next one
  by_cases hempty : Breaks text .empty
  · rw [if_pos (breaks_empty_iff.mp hempty), decide_eq_true hempty]
  rw [if_neg (mt breaks_empty_iff.mpr hempty), decide_eq_false hempty]
  by_cases hblank : Breaks text .blank
  · rw [if_pos (breaks_blank_iff.mp hblank), decide_eq_true hblank]
  rw [if_neg (mt breaks_blank_iff.mpr hblank), decide_eq_false hblank]
  by_cases hseparator : Breaks text .separator
  · rw [if_pos (breaks_separator_iff.mp hseparator), decide_eq_true hseparator]
  · rw [if_neg (mt breaks_separator_iff.mpr hseparator), decide_eq_false hseparator]

theorem flaw?_eq_some_iff {flaw : Flaw} : flaw? text = some flaw ↔ BreaksFirst text flaw := by
  rw [flaw?_eq_find?, List.find?_eq_some_iff_append]
  simp [BreaksFirst]

theorem flaw?_eq_none_iff : flaw? text = none ↔ ∀ flaw, ¬ Breaks text flaw := by
  have hall : ∀ flaw, flaw ∈ Flaw.order := by
    intro flaw
    cases flaw <;> decide
  rw [flaw?_eq_find?, List.find?_eq_none]
  simp [hall]

/-- A text that is no name is reported with the first rule that it breaks. -/
theorem ofString?_eq_error_iff {invalid : InvalidPackageName} :
    ofString? text = .error invalid ↔ BreaksFirst text invalid.flaw ∧ invalid.name = text := by
  rw [← flaw?_eq_some_iff]
  unfold ofString?
  split
  · next hnone =>
    -- nothing is broken, so nothing is reported
    simp [hnone]
  · next flaw hsome =>
    -- the flaw is the one that is reported
    obtain ⟨name, found⟩ := invalid
    simp [hsome, and_comm, eq_comm]

/-- A text that breaks no rule is a name. -/
theorem exists_ofString?_iff : (∃ name, ofString? text = .ok name) ↔ ∀ flaw, ¬ Breaks text flaw := by
  rw [← flaw?_eq_none_iff]
  constructor
  · -- a name is made with the fact that nothing is broken
    rintro ⟨name, hname⟩
    rw [← ofString?_eq_ok_iff.mp hname]
    exact name.sound
  · -- a text without a flaw is the name
    intro hnone
    exact ⟨⟨text, hnone⟩, ofString?_eq_ok_iff.mpr rfl⟩

end PackageName

/-! ### Lists of texts -/

namespace Config

variable {texts : List String}

/-- Texts are names if each of them is the text of the name in its place. -/
theorem namesOf_eq_ok_iff {names : List PackageName} :
    packageNames.namesOf texts = .ok names ↔ names.map (·.text) = texts := by
  induction texts generalizing names with
  | nil => exact ⟨fun h => Except.ok.inj h ▸ rfl, fun h => List.map_eq_nil_iff.mp h ▸ rfl⟩
  | cons text texts ih =>
    unfold packageNames.namesOf
    constructor
    · -- the names are those of the texts, one by one
      intro h
      split at h
      · cases h
      · next name hname =>
        split at h
        · cases h
        · next later hlater =>
          obtain rfl := Except.ok.inj h
          rw [List.map_cons, ih.mp hlater, PackageName.ofString?_eq_ok_iff.mp hname]
    · -- the texts are those of the names
      intro h
      obtain ⟨name, later, rfl, htext, hlater⟩ := List.map_eq_cons_iff.mp h
      rw [PackageName.ofString?_eq_ok_iff.mpr htext, ih.mpr hlater]

/-- What is reported of a text that is no name. -/
def invalidPackage (text : String) (flaw : PackageName.Flaw) : ConfigError :=
  .invalid "packages" s!"Invalid package name '{text}': {flaw.message}"

/-- Of texts that are not all names the first that is none is reported. -/
theorem namesOf_eq_error_iff {error : ConfigError} :
    packageNames.namesOf texts = .error error ↔ ∃ before text after flaw,
      texts = before ++ text :: after ∧ (∀ other ∈ before, ∀ flaw, ¬ PackageName.Breaks other flaw) ∧
        PackageName.BreaksFirst text flaw ∧ error = invalidPackage text flaw := by
  induction texts with
  | nil => simp [packageNames.namesOf]
  | cons text texts ih =>
    unfold packageNames.namesOf
    constructor
    · intro h
      split at h
      · next invalid hinvalid =>
        -- the first text is the one that is reported
        obtain ⟨hfirst, hname⟩ := PackageName.ofString?_eq_error_iff.mp hinvalid
        refine ⟨[], text, texts, invalid.flaw, rfl, by simp, hfirst, ?_⟩
        rw [← Except.error.inj h, invalidPackage, ← hname]
        rfl
      · next name hname =>
        -- the first text is a name, so a later one is reported
        split at h
        · next found hfound =>
          obtain ⟨before, other, after, flaw, rfl, hbefore, hother⟩ := ih.mp (hfound.trans h)
          have htext := PackageName.exists_ofString?_iff.mp ⟨name, hname⟩
          exact ⟨text :: before, other, after, flaw, rfl,
            List.forall_mem_cons.mpr ⟨htext, hbefore⟩, hother⟩
        · cases h
    · -- the text that is reported is the first one, or the texts before it are names
      rintro ⟨before, other, after, flaw, htexts, hbefore, hother, rfl⟩
      obtain ⟨rfl, hsame⟩ | ⟨before, rfl, rfl⟩ := List.cons_eq_append_iff.mp htexts
      · obtain ⟨rfl, rfl⟩ := List.cons.inj hsame
        have hinvalid : PackageName.ofString? other = .error ⟨other, flaw⟩ :=
          PackageName.ofString?_eq_error_iff.mpr ⟨hother, rfl⟩
        rw [hinvalid]
        rfl
      · obtain ⟨htext, hbefore⟩ := List.forall_mem_cons.mp hbefore
        obtain ⟨name, hname⟩ := PackageName.exists_ofString?_iff.mpr htext
        rw [hname, ih.mpr ⟨before, other, after, flaw, rfl, hbefore, hother, rfl⟩]

/-- Texts that break no rule are names, all of them. -/
theorem exists_namesOf_iff : (∃ names, packageNames.namesOf texts = .ok names) ↔
    ∀ text ∈ texts, ∀ flaw, ¬ PackageName.Breaks text flaw := by
  constructor
  · -- each text is that of a name
    rintro ⟨names, hnames⟩ text hmem
    obtain ⟨name, -, rfl⟩ := List.mem_map.mp (namesOf_eq_ok_iff.mp hnames ▸ hmem)
    exact PackageName.exists_ofString?_iff.mp ⟨name, PackageName.ofString?_text name⟩
  · -- the texts have names, or one of them is reported
    intro hall
    cases hnames : packageNames.namesOf texts with
    | ok names => exact ⟨names, rfl⟩
    | error error =>
      -- a text that is reported breaks a rule
      obtain ⟨before, text, after, flaw, rfl, -, hfirst, -⟩ := namesOf_eq_error_iff.mp hnames
      exact absurd hfirst.1 (hall text (by simp) flaw)

/-- **The packages of a configuration**, for a build with any directories. There are names for them if
there is a package at all and no text breaks a rule for names. Then they are the texts, each in its
place, and a build takes them. Otherwise it is reported that packages are missing, or else which text is
the first that is no name, and which rule is the first that it breaks. -/
theorem packageNames_exact (config : Config) (output resources : Path) :
    ((∃ names, config.packageNames = .ok names) ↔
        config.packages ≠ [] ∧ ∀ text ∈ config.packages, ∀ flaw, ¬ PackageName.Breaks text flaw) ∧
      (∀ names, config.packageNames = .ok names ↔
        config.packages ≠ [] ∧ names.map (·.text) = config.packages ∧
          ∃ request, BuildRequest.make? output resources names = .ok request ∧
            request.packages = names) ∧
      (∀ error, config.packageNames = .error error ↔
        (config.packages = [] ∧ error = .missing "packages") ∨
          ∃ before text after flaw, config.packages = before ++ text :: after ∧
            (∀ other ∈ before, ∀ flaw, ¬ PackageName.Breaks other flaw) ∧
            PackageName.BreaksFirst text flaw ∧ error = invalidPackage text flaw) := by
  -- without a package that is what is reported; otherwise all depends on the texts
  by_cases hpackages : config.packages = []
  · have hmissing : config.packageNames = .error (.missing "packages") := by
      rw [packageNames, hpackages]
      rfl
    rw [hmissing, hpackages]
    refine ⟨by simp, by simp, ?_⟩
    intro error
    simp only [Except.error.injEq, true_and, List.nil_eq, List.append_eq_nil_iff, List.cons_ne_nil,
      and_false, false_and, exists_false, or_false]
    exact eq_comm
  · have hnames : config.packageNames = packageNames.namesOf config.packages := by
      rw [packageNames, if_neg (by simpa using hpackages)]
    refine ⟨?_, ?_, ?_⟩
    · -- there are names if all texts are such
      rw [hnames, exists_namesOf_iff]
      exact (and_iff_right hpackages).symm
    · -- the names are those with the texts, and a request can be made of them
      intro names
      rw [hnames, namesOf_eq_ok_iff]
      constructor
      · intro htexts
        have hne : names ≠ [] := by
          rintro rfl
          exact hpackages htexts.symm
        exact ⟨hpackages, htexts, _, dif_neg hne, rfl⟩
      · exact fun ⟨_, htexts, _⟩ => htexts
    · -- the texts decide about the error
      intro error
      rw [hnames, namesOf_eq_error_iff]
      simp [hpackages]

end Config

end SchemaBuild
