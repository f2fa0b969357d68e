import CommandConsole.Proofs.Histories
import CommandConsole.Proofs.LowerCase
import CommandConsole.Proofs.Parsing
import CommandConsole.Proofs.Tiling

/-!
# Names that can be called

The registry takes more names than a line can begin with: a line that begins with a digit
or with a keyword has no command, yet a command may be named so. Every other name is a line
of its own and calls its command (`parse_identifier`). The case of letters opens no way
around: what matches a name is callable only if the name is (`Callable.of_same`).

Main result: `Session.names_callable`.
-/

namespace CommandConsole

variable {σ : Type}

/-- Whether a line can begin with the name: no digit in front, and no keyword. -/
structure Callable (name : String) : Prop where
  start : ∀ c ∈ name.toList.head?, c.isDigit = false
  free : ¬ IsKeyword name.toList

theorem IsIdentifier.callable {name : String} (h : IsIdentifier name.toList) :
    Callable name where
  start := h.start
  free := h.free

theorem Callable.isIdentifier {name : String} (h : Callable name) (named : IsNamed name) :
    IsIdentifier name.toList where
  nonempty := named.nonempty
  named := named.named
  start := h.start
  free := h.free

/-! ## Names that match -/

theorem toNat_of_isAlpha {c : Char} (h : c.isAlpha = true) : c.toNat < 128 := by
  simp only [Char.isAlpha, Char.isUpper, Char.isLower, Bool.or_eq_true, Bool.and_eq_true,
    decide_eq_true_eq, ge_iff_le, UInt32.le_iff_toNat_le] at h
  have hcapital : ('Z').val.toNat = 90 := rfl
  have hsmall : ('z').val.toNat = 122 := rfl
  show c.val.toNat < 128
  omega

theorem toNat_of_isDigit {c : Char} (h : c.isDigit = true) : 48 ≤ c.toNat ∧ c.toNat ≤ 57 := by
  simp only [Char.isDigit, Bool.and_eq_true, decide_eq_true_eq, ge_iff_le,
    UInt32.le_iff_toNat_le] at h
  exact h

theorem isPlain_of_isDigit {c : Char} (h : c.isDigit = true) : Text.IsPlain c := by
  have hrange := toNat_of_isDigit h
  exact ⟨by omega, by omega, ne_of_isDigit h rfl, ne_of_isDigit h rfl⟩

theorem keyword_plain : ∀ word ∈ keywords, ∀ c ∈ word, Text.IsPlain c := by
  simp [keywords]
  decide

theorem eq_of_toLower_isDigit {c : Char} (h : c.toLower.isDigit = true) : c.toLower = c := by
  have halpha : c.isAlpha = false := by
    rw [← Char.isAlpha_toLower_eq_isAlpha]
    exact not_isAlpha_of_isDigit h
  refine Char.toLower_eq_of_not_isUpper ?_
  intro hupper
  simp [Char.isAlpha, hupper] at halpha

theorem isKeyword_of_lowercase {a b : List Char} (h : Text.lowercase a = Text.lowercase b)
    (keyword : IsKeyword b) : IsKeyword a := by
  have hascii : ∀ c ∈ b, c.toNat < 128 := fun c hc =>
    toNat_of_isAlpha (alpha_of_word (keyword_letters _ keyword) rfl c hc)
  rw [Text.lowercase_ascii hascii] at h
  have hmap := Text.map_toLower_of_lowercaseAfter (keyword_plain _ keyword) h
  show a.map Char.toLower ∈ keywords
  rw [hmap]
  exact keyword

theorem digit_of_lowercase {a b : List Char} (h : Text.lowercase a = Text.lowercase b)
    {c : Char} (head : b.head? = some c) (digit : c.isDigit = true) : a.head? = some c := by
  obtain ⟨rest, rfl⟩ := List.head?_eq_some_iff.mp head
  have hplain := isPlain_of_isDigit digit
  have hsigma : c ≠ 'Σ' := ne_of_isDigit digit rfl
  have hself : c.toLower = c := by
    refine Char.toLower_eq_of_not_isUpper fun hupper => ?_
    have halpha := not_isAlpha_of_isDigit digit
    simp [Char.isAlpha, hupper] at halpha
  have hlower : Text.lowercase (c :: rest) = c :: Text.lowercaseAfter [c] rest := by
    rw [Text.lowercase, Text.lowercaseAfter, if_neg hsigma,
      Text.lowercaseChar_ascii hplain.2.1, hself]
    rfl
  rw [hlower] at h
  obtain ⟨first, tail, rfl, hfirst, -⟩ := Text.lowercaseAfter_eq_cons hplain h
  have hdigit : first.toLower.isDigit = true := by rw [hfirst, digit]
  rw [← eq_of_toLower_isDigit hdigit, hfirst]
  rfl

theorem Callable.of_same {rule : CaseRule} {a b : String} (h : Callable a)
    (same : rule.same a b = true) : Callable b := by
  have hkey := CaseRule.same_iff.mp same
  cases rule with
  | sensitive =>
      obtain rfl := String.toList_inj.mp hkey
      exact h
  | insensitive =>
      constructor
      · intro c hc
        by_contra hdigit
        rw [Bool.not_eq_false] at hdigit
        have hhead := digit_of_lowercase hkey hc hdigit
        rw [h.start c hhead] at hdigit
        exact Bool.noConfusion hdigit
      · intro hkeyword
        exact h.free (isKeyword_of_lowercase hkey hkeyword)

theorem CommandLine.parse_identifier {name : String} (h : IsIdentifier name.toList)
    (settings : ParserSettings) : parse settings name = .ok ⟨name, []⟩ := by
  have hlex : IsLexeme .identifier name.toList := h
  exact parse_of_tokens (tokens_lexeme hlex) rfl rfl

/-- The command of a line is an identifier, in whatever precision numbers are read. -/
theorem CommandLine.isIdentifier_of_parse {settings : ParserSettings} {line : String}
    {parsed : CommandLine} (h : parse settings line = .ok parsed) :
    IsIdentifier parsed.command.toList := by
  obtain ⟨first, rest, htoks, hkind, htext, -⟩ := tokens_of_parse h
  have hfirst := isLexeme_of_mem_tokens htoks first List.mem_cons_self
  rw [hkind, htext] at hfirst
  exact hfirst.resolve_left (by simp)

theorem Console.execute_of_resolve {console : Console σ} {line : String} {parsed : CommandLine}
    (h : console.parse line = .ok parsed) (now : σ) :
    (∀ invocation, console.registry.resolve parsed = .ok invocation →
      console.execute line now = (.ok (), invocation.perform now)) ∧
    ∀ error, console.registry.resolve parsed = .error error →
      console.execute line now = (.error (.dispatch error), now) := by
  constructor
  · intro invocation hresolve
    simp [execute, h, Registry.dispatch, hresolve]
  · intro error hresolve
    simp [execute, h, Registry.dispatch, hresolve]

namespace Session

/-- **Which names can be called.** In any session, a name or alias of a command that begins
with no digit and is no keyword is a line: it is read as the command without arguments,
leads to the command that has the name, and calls what that command calls. If a name does
begin with a digit or is a keyword, no line at all is read as a command that matches it. -/
theorem names_callable (settings : Settings) (host : σ) (events : List (Event σ)) :
    let console := ((start settings host).run events).console
    ∀ command ∈ console.registry.commands, ∀ name ∈ command.names,
      (Callable name →
        console.parse name = .ok ⟨name, []⟩ ∧
        console.registry.find? name = some command ∧
        ∀ now,
          (∀ invocation, command.invocation ⟨name, []⟩ = .ok invocation →
            console.execute name now = (.ok (), invocation.perform now)) ∧
          ∀ error, command.invocation ⟨name, []⟩ = .error error →
            console.execute name now = (.error (.dispatch error), now)) ∧
      (¬ Callable name →
        ∀ line parsed, console.parse line = .ok parsed →
          console.registry.caseRule.same parsed.command name = false) := by
  intro console command hcommand name hname
  have hdistinct : console.registry.Distinct := (run_start settings host events).1.distinct
  have hmem : name ∈ console.registry.names := List.mem_flatMap.mpr ⟨command, hcommand, hname⟩
  have hnamed : IsNamed name := (isName_iff.mp (hdistinct.valid name hmem)).1
  constructor
  · intro hcallable
    have hparse : console.parse name = .ok ⟨name, []⟩ :=
      CommandLine.parse_identifier (hcallable.isIdentifier hnamed) console.parser
    have hfind : console.registry.find? name = some command :=
      hdistinct.find?_eq_some.mpr ⟨hcommand, Command.answersTo_own hname _⟩
    refine ⟨hparse, hfind, fun now => ?_⟩
    have hresolve : console.registry.resolve ⟨name, []⟩ = command.invocation ⟨name, []⟩ :=
      Registry.resolve_of_find? hfind
    rw [← hresolve]
    exact Console.execute_of_resolve hparse now
  · intro hnot line parsed hparse
    by_contra hsame
    rw [Bool.not_eq_false] at hsame
    have hread := CommandLine.isIdentifier_of_parse hparse
    exact hnot (hread.callable.of_same hsame)

end Session

namespace Sample

def saving : Session String :=
  (Session.start ⟨⟨.double, true⟩, .insensitive⟩ "").run
    [.declare ⟨"Save", [.alias "2nd", .alias "NULL"],
      some (.raw fun line _ => line.command)⟩]

end Sample

theorem Session.names_callable_sample :
    Sample.saving.console.parse "Save" = .ok ⟨"Save", []⟩ ∧
    Sample.saving.console.execute "Save" "" = (.ok (), "Save") ∧
    (∀ line parsed, Sample.saving.console.parse line = .ok parsed →
      CaseRule.insensitive.same parsed.command "2nd" = false) ∧
    ∀ line parsed, Sample.saving.console.parse line = .ok parsed →
      CaseRule.insensitive.same parsed.command "NULL" = false := by
  have hnames := names_callable ⟨⟨.double, true⟩, .insensitive⟩ ""
    [.declare ⟨"Save", [.alias "2nd", .alias "NULL"],
      some (.raw fun line (_ : String) => line.command)⟩] _ (by exact .head _)
  obtain ⟨hparse, -, hexecute⟩ := (hnames "Save" (by decide +kernel)).1
    ⟨by simp, by decide⟩
  refine ⟨hparse, (hexecute "").1 _ rfl, ?_, ?_⟩
  · refine (hnames "2nd" (by decide +kernel)).2 fun h => ?_
    exact absurd (h.start '2' (by decide +kernel)) (by decide +kernel)
  · exact (hnames "NULL" (by decide +kernel)).2 fun h => h.free (by decide +kernel)

end CommandConsole
