import Questionnaire.Tag.RuleTable
import Questionnaire.Template.Question

/-!
# Outlines

The outline of a questionnaire is made of its questions and its alias rules.  It
is built one key at a time.  The options of a choice follow it, a label before
its tag; an alias rule is given by its triggers and its dependents in either
order.  A choice needs an option, and a label that came last needs its tag,
before anything new may begin.

## Main definitions

* `Stage` — what the last keys left open.
* `Outline` — the questions and rules so far, and the stage.
* `Outline.step mark value` — the outline after one more key.
* `OutlineFault` — why a key does not fit.
-/

namespace Questionnaire

open Text

/-- What the last keys of the outline left open. -/
inductive Stage where
  /-- Nothing is open. -/
  | settled
  /-- A choice is open, and no label waits for its tag. -/
  | inChoice
  /-- A choice is open, and its last label may still get a tag. -/
  | inLabel
  /-- The triggers of a rule are given, and its dependents are not. -/
  | triggersGiven (triggers : Text)
  /-- The dependents of a rule are given, and its triggers are not. -/
  | dependentsGiven (dependents : Text)
  deriving DecidableEq, Repr

/-- Why a key does not fit the outline. -/
inductive OutlineFault where
  /-- A question begins while something is open. -/
  | earlyQuestion
  /-- A label or a tag does not follow a choice. -/
  | strayOption
  /-- A tag has a blank in it. -/
  | blankInTag (tag : Text)
  /-- A rule begins while a choice is open. -/
  | earlyAlias
  deriving DecidableEq, Repr

/-- What is said about a key that does not fit. -/
def OutlineFault.message : OutlineFault → Text
  | .earlyQuestion =>
    "new question started while existing question or alias is being defined".toList
  | .strayOption => "only allowed inside a RADIO_QUESTION or CHECK_QUESTION".toList
  | .blankInTag tag => "tag '".toList ++ tag ++ "' must not contain whitespace".toList
  | .earlyAlias => "alias started while an option question is still being defined".toList

/-- The questions and rules so far, and what is open. -/
structure Outline where
  /-- What is open. -/
  stage : Stage
  /-- The questions in order. -/
  questions : List Question
  /-- The alias rules. -/
  rules : RuleTable
  deriving DecidableEq, Repr

namespace Outline

/-- The outline before the first key. -/
def empty : Outline := ⟨.settled, [], .empty⟩

/-- The options of the last question, if it is a choice. -/
def lastOptions? (o : Outline) : Option (List Answer) :=
  match o.questions.getLast? with
  | some (.choice _ _ options) => some options
  | _ => none

/-- Something new may begin: nothing is open, or the open choice has an option
and none of its labels waits for a tag. -/
def ready (o : Outline) : Bool :=
  match o.stage with
  | .settled => true
  | .inChoice => o.lastOptions?.any (!·.isEmpty)
  | _ => false

/-- A further question, which leaves `stage` open. -/
def ask (question : Question) (stage : Stage) (o : Outline) : Except OutlineFault Outline :=
  if o.ready then .ok { o with stage, questions := o.questions ++ [question] }
  else .error .earlyQuestion

/-- The options of the last question changed by `f`, which leaves `stage` open. -/
def changeOptions (f : List Answer → List Answer) (stage : Stage) (o : Outline) :
    Except OutlineFault Outline :=
  match o.questions.getLast? with
  | some (.choice kind text options) =>
    .ok { o with stage, questions := o.questions.dropLast ++ [.choice kind text (f options)] }
  | _ => .error .strayOption

/-- A further label, which may get a tag. -/
def addLabel (name : Text) (o : Outline) : Except OutlineFault Outline :=
  if o.stage = .inChoice ∨ o.stage = .inLabel then
    o.changeOptions (· ++ [⟨name, []⟩]) .inLabel
  else .error .strayOption

/-- The options with the tag given to the last one. -/
def tagLast (tag : Text) (options : List Answer) : List Answer :=
  match options.getLast? with
  | some last => options.dropLast ++ [⟨last.name, tag⟩]
  | none => [⟨tag, tag⟩]

/-- The tag of the label that waits for one, or else a further option that has the
tag for its label too. -/
def addTag (tag : Text) (o : Outline) : Except OutlineFault Outline :=
  if o.stage = .inChoice ∨ o.stage = .inLabel then
    if tag.any isBlank then .error (.blankInTag tag)
    else if o.stage = .inLabel then o.changeOptions (tagLast tag) .inChoice
    else o.changeOptions (· ++ [⟨tag, tag⟩]) .inChoice
  else .error .strayOption

/-- The triggers of a rule.  They complete a rule whose dependents are given, and
take the place of triggers given just before. -/
def addTriggers (triggers : Text) (o : Outline) : Except OutlineFault Outline :=
  match o.stage with
  | .dependentsGiven dependents =>
    .ok { o with stage := .settled, rules := o.rules.addRule triggers dependents }
  | .triggersGiven _ => .ok { o with stage := .triggersGiven triggers }
  | _ =>
    if o.ready then .ok { o with stage := .triggersGiven triggers } else .error .earlyAlias

/-- The dependents of a rule.  They complete a rule whose triggers are given, and
take the place of dependents given just before. -/
def addDependents (dependents : Text) (o : Outline) : Except OutlineFault Outline :=
  match o.stage with
  | .triggersGiven triggers =>
    .ok { o with stage := .settled, rules := o.rules.addRule triggers dependents }
  | .dependentsGiven _ => .ok { o with stage := .dependentsGiven dependents }
  | _ =>
    if o.ready then .ok { o with stage := .dependentsGiven dependents } else .error .earlyAlias

/-- The outline after one more key. -/
def step (mark : Mark) (value : Text) (o : Outline) : Except OutlineFault Outline :=
  match mark with
  | .prompt kind => o.ask (.prompt kind value) .settled
  | .choice kind => o.ask (.choice kind value []) .inChoice
  | .optionName => o.addLabel value
  | .optionTag => o.addTag value
  | .aliasFrom => o.addTriggers value
  | .aliasTo => o.addDependents value

end Outline

end Questionnaire
