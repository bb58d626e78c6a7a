import QueryMacros.Proofs.Builtin.Boundaries
import QueryMacros.Proofs.Builtin.Growth

/-!
# Starting over

A run resumes behind each replacement. It could as well start over: expand the first
invocation of the text, then the first one of the text that results, and so on until none
is left. That would never end if a replacement had an invocation of its own, and it would
find another one if a replacement and the text in front of it formed the name together.
Where every replacement separates the name from what is around it, neither happens; the
first invocation of the whole text is then always the next one behind the place where the
run has come to. So both ways have the same outcome, and what they end with has no
invocation left. The interval in seconds and the four boundaries are of this kind.
-/
namespace QueryMacros

open Macro

variable {σ : Type}

namespace Macro.Applier

/-- Expands the first invocation of a text over and over, until the name does not occur any
more. The count bounds the turns; there is no text if it runs out. -/
def startOver (applier : Applier σ) (context : Context σ) : Nat → Text → Expansion σ (Option Text)
  | 0, _ => return none
  | turns + 1, sql =>
      if (next? applier.name (.start sql)).isSome then do
        applier.startOver context turns (← applier.applyFirst context sql)
      else return some sql

/-- Whatever the applier expands to separates its name. -/
def Separating (applier : Applier σ) (context : Context σ) : Prop :=
  ∀ {sql text : Text} {invocation : Invocation} {state final : σ},
    applier.expand sql invocation context state = (.ok text, final) →
      Callee.Separates applier.name text

/-- The first invocation of a text is the next one behind a place of it. -/
def PassedOver (name : Text) (cursor : Cursor) : Prop :=
  next? name (.start cursor.text) = (next? name cursor).map fun occurrence =>
    { occurrence with before := cursor.before ++ occurrence.before }

variable {applier : Applier σ} {context : Context σ} {cursor : Cursor}

/-- Behind a replacement that separates, the first invocation of the text is still the next
one. In front of it there is none, because the one that was replaced was the first. -/
theorem passedOver_behind {name : Text} (named : name ≠ []) (passed : PassedOver name cursor)
    {occurrence : Occurrence} (found : next? name cursor = some occurrence) {replacement : Text}
    (separates : Callee.Separates name replacement) :
    PassedOver name ⟨cursor.before ++ occurrence.before ++ replacement, occurrence.rest⟩ := by
  rw [PassedOver, found, Option.map_some] at passed
  obtain ⟨⟨front, behind⟩, located, same⟩ := Option.map_eq_some_iff.1 passed
  have fronted : front = cursor.before ++ occurrence.before := congrArg Occurrence.before same
  rw [fronted] at located
  have clear : ¬ Inside name (cursor.before ++ occurrence.before) :=
    not_inside_of_locate? named located
  have skipped := locate?_append named clear (separates.apart _ occurrence.rest)
  rw [locate?_silent_append named separates.silent, Option.map_map] at skipped
  have ahead : next? name ⟨cursor.before ++ occurrence.before ++ replacement, occurrence.rest⟩ =
      occurrence? name none occurrence.rest := next?_eq_occurrence? named _
  rw [PassedOver, ahead, next?, Cursor.text, Cursor.start, List.append_assoc _ replacement,
    List.getLast?_nil, occurrence?, skipped, occurrence?, Option.map_map, Option.map_map]
  simp [Function.comp_def, List.append_assoc]

/-- Starting over from a place that has been reached takes the turns that the run from
there takes. The induction is on the number of turns; the text behind the place becomes
shorter with each. What was put in place of a call separates the name, so the search from
the start passes over it. -/
theorem startOver_eq_applyFrom (separating : applier.Separating context) (turns : Nat)
    (passed : PassedOver applier.name cursor) (enough : cursor.after.length < turns) :
    applier.startOver context turns cursor.text = some <$> applier.applyFrom context cursor := by
  induction turns generalizing cursor with
  | zero => exact absurd enough (Nat.not_lt_zero _)
  | succ turns inductionHypothesis =>
    rw [startOver, applyFirst, applyAt, passed]
    cases search : next? applier.name cursor with
    | none =>
      rw [applyFrom_of_none search, map_pure]
      rfl
    | some occurrence =>
      have shorter := occurrence?_rest_length applier.named search
      have again (replacement : Text) (separates : Callee.Separates applier.name replacement) :=
        inductionHypothesis (passedOver_behind applier.named passed search separates) (by
          simp only
          omega)
      -- Found from the start, the invocation has the offsets that it has from the place.
      have sameCall : ({ occurrence with before := cursor.before ++ occurrence.before } :
          Occurrence).invocation applier.name (.start cursor.text) =
            occurrence.invocation applier.name cursor := by
        simp [Occurrence.invocation, Cursor.offset, Cursor.start, Text.utf8Length_append,
          Text.utf8Length_nil]
      rw [applyFrom_of_some search]
      simp only [Option.map_some, Option.isSome_some, if_true, bind_assoc, pure_bind, map_bind,
        sameCall]
      refine congrArg _ (funext fun arguments => ?_)
      apply Expansion.bind_congr_of_ok
      intro replacement state between expanded
      exact again replacement (separating expanded)

/-- Starting over has the outcome of the run, and it takes no more turns than the text has
characters. -/
theorem startOver_eq_applyAll (separating : applier.Separating context) {turns : Nat} {sql : Text}
    (enough : sql.length < turns) :
    applier.startOver context turns sql = some <$> applier.applyAll context sql := by
  have passed : PassedOver applier.name (.start sql) := by
    simp [PassedOver, Cursor.text, Cursor.start]
  exact startOver_eq_applyFrom separating turns passed enough

/-- It ends with a text in which the name does not occur. -/
theorem not_occurs_of_startOver {turns : Nat} {sql out : Text} {state final : σ}
    (ended : applier.startOver context turns sql state = (.ok (some out), final)) :
    ¬ Occurs applier.name out := by
  induction turns generalizing sql state with
  | zero =>
    obtain ⟨none, -⟩ := Expansion.pure_eq_ok.1 ended
    cases none
  | succ turns inductionHypothesis =>
    rw [startOver] at ended
    cases search : next? applier.name (.start sql) with
    | none =>
      rw [search] at ended
      obtain ⟨same, -⟩ := Expansion.pure_eq_ok.1 ended
      obtain rfl := Option.some.inj same
      exact (occurrence?_eq_none_iff applier.named).1 search
    | some occurrence =>
      rw [search] at ended
      obtain ⟨next, between, -, later⟩ := Expansion.bind_eq_ok.1 ended
      exact inductionHypothesis later

end Macro.Applier

/-- A digit is a character of words. -/
theorem Text.isWord_of_isDigit {c : Char} (digit : c.isDigit = true) : isWord c = true := by
  have nine : '9'.val.toNat = 57 := rfl
  have low : c.toNat < 0x80 := by
    have bounds := digit
    simp only [Char.isDigit, Bool.and_eq_true, decide_eq_true_eq, ge_iff_le,
      UInt32.le_iff_toNat_le] at bounds
    have same : c.val.toNat = c.toNat := rfl
    omega
  rw [isWord, if_pos low, Char.isAlphanum, digit, Bool.or_true, Bool.true_or]

namespace Callee

/-- A text that begins with a digit, and has no dollar, separates the name of the interval.
That name has no digit, and a word goes on where a digit follows. -/
theorem separates_of_beginsWithDigit {text : Text} (begins : Text.BeginsWithDigit text)
    (noDollar : '$' ∉ text) : Separates Callee.intervalSeconds.name text where
  silent := Callee.intervalSeconds.silent_of_no_dollar noDollar
  apart := by
    obtain ⟨c, others, rfl, digit⟩ := begins
    rintro before behind ⟨front, part, remainder, following, -, named, -, rested, edge⟩
    cases remainder with
    | nil =>
      obtain rfl : c :: others ++ behind = following := rested
      have letter : Text.isWord c = true := Text.isWord_of_isDigit digit
      simp [Text.wordEdge, Callee.intervalSeconds.name_ends_in_word, letter] at edge
    | cons d remainder =>
      obtain ⟨rfl, -⟩ : c = d ∧ _ := List.cons.inj rested
      have digits := Callee.intervalSeconds.digitCount_name
      have inName : c ∈ Callee.intervalSeconds.name := by simp [named]
      exact absurd digit (List.countP_eq_zero.1 digits c inName)

/-- A boundary expands to a bound, which separates the names of all boundaries. -/
theorem separating_boundary {callee : Callee} (boundary : callee ∈ boundaries)
    (context : Context σ) : (callee.applier : Applier σ).Separating context := by
  intro sql text invocation state final expanded
  rw [applier_name]
  exact separates_of_expand boundary boundary expanded

/-- The interval expands to a number, which separates its name. -/
theorem separating_intervalSeconds (context : Context σ) :
    (Builtin.intervalSeconds : Applier σ).Separating context := by
  intro sql text invocation state final expanded
  obtain ⟨_, _, -, expanded⟩ := Expansion.bind_eq_ok.1 expanded
  obtain ⟨rfl, -⟩ := Expansion.pure_eq_ok.1 expanded
  obtain ⟨significand, exponent, exact⟩ := context.intervalSeconds_unsigned
  apply separates_of_beginsWithDigit
  · rw [exact]
    exact Binary64.beginsWithDigit_writeNumber significand exponent
  · exact Text.no_dollar_of_isNumeric (Binary64.isNumeric_writeNumber _)

end Callee

/-- For the interval in seconds and for the boundaries, expanding the first invocation from
the start of the text until none is left comes to an end, with the text or the error of
the run that resumes behind each replacement. So a run that succeeds leaves no
invocation. -/
theorem applyAll_eq_startOver {applier : Applier σ}
    (bare : applier ∈ [ Builtin.intervalSeconds, Builtin.fromTime, Builtin.fromTimeMillis,
      Builtin.toTime, Builtin.toTimeMillis])
    (context : Context σ) (sql : Text) :
    (∀ turns, sql.length < turns →
      applier.startOver context turns sql = some <$> applier.applyAll context sql) ∧
    ∀ state out final, applier.applyAll context sql state = (.ok out, final) →
      ¬ Occurs applier.name out := by
  have separating : applier.Separating context := by
    simp only [List.mem_cons, List.not_mem_nil, or_false] at bare
    rcases bare with rfl | rfl | rfl | rfl | rfl
    · exact Callee.separating_intervalSeconds context
    · exact @Callee.separating_boundary σ .fromTime (by decide) context
    · exact @Callee.separating_boundary σ .fromTimeMillis (by decide) context
    · exact @Callee.separating_boundary σ .toTime (by decide) context
    · exact @Callee.separating_boundary σ .toTimeMillis (by decide) context
  refine ⟨fun turns enough => Applier.startOver_eq_applyAll separating enough, ?_⟩
  intro state out final ran
  have ended : applier.startOver context (sql.length + 1) sql state = (.ok (some out), final) := by
    rw [Applier.startOver_eq_applyAll separating (Nat.lt_succ_self _), map_eq_pure_bind,
      Expansion.bind_of_ok ran]
    rfl
  exact Applier.not_occurs_of_startOver ended

/-- The first hour of 1970, and nothing else. -/
def hourlyPlain : Context Unit :=
  { (Context.empty : Context Unit) with timeRange := some .firstHour }

/-- A part of the name in front of one call, and a second call right behind it. -/
theorem applyAll_eq_startOver_adjacent :
    (Builtin.fromTime : Applier Unit) ∈ [ Builtin.intervalSeconds, Builtin.fromTime,
        Builtin.fromTimeMillis, Builtin.toTime, Builtin.toTimeMillis] ∧
      "$__from$__fromTime()$__fromTime".toList.length < 32 ∧
      Builtin.fromTime.startOver hourlyPlain 32 "$__from$__fromTime()$__fromTime".toList () =
        (.ok (some "$__fromtoDateTime(0)toDateTime(0)".toList), ()) ∧
      ¬ Occurs "$__fromTime".toList "$__fromtoDateTime(0)toDateTime(0)".toList := by
  have bare : (Builtin.fromTime : Applier Unit) ∈ [ Builtin.intervalSeconds, Builtin.fromTime,
      Builtin.fromTimeMillis, Builtin.toTime, Builtin.toTimeMillis] :=
    List.mem_cons_of_mem _ List.mem_cons_self
  have short : "$__from$__fromTime()$__fromTime".toList.length < 32 := by decide
  have ran : Builtin.fromTime.applyAll hourlyPlain "$__from$__fromTime()$__fromTime".toList () =
      (.ok "$__fromtoDateTime(0)toDateTime(0)".toList, ()) :=
    Prod.ext (by decide +kernel) rfl
  obtain ⟨bounded, gone⟩ :=
    applyAll_eq_startOver bare hourlyPlain "$__from$__fromTime()$__fromTime".toList
  refine ⟨bare, short, ?_, gone _ _ _ ran⟩
  rw [bounded 32 short, map_eq_pure_bind, Expansion.bind_of_ok ran]
  rfl

end QueryMacros
