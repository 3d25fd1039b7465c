import Questionnaire.Template.DefaultTags
import Questionnaire.Template.Token

/-!
# Configurations

A template is compiled token by token: each key adds to the outline, to the
default tags or to the settings.  The first token that does not fit is an error.
At the end a choice or a rule may still be open; such a rule is dropped.

## Main definitions

* `Config` — what a template defines.
* `Draft` — a configuration in the making.
* `Draft.feed` — the draft after one more token.
* `compileWith`, `compile` — the configuration of a template.
-/

namespace Questionnaire

/-- What a template defines. -/
structure Config where
  /-- The settings. -/
  settings : Settings
  /-- The default tags. -/
  tags : DefaultTags
  /-- The alias rules. -/
  rules : RuleTable
  /-- The questions in order. -/
  questions : List Question
  deriving DecidableEq, Repr

/-- A configuration in the making. -/
structure Draft where
  /-- The settings so far. -/
  settings : Settings
  /-- The default tags so far. -/
  tags : DefaultTags
  /-- The questions and rules so far. -/
  outline : Outline
  deriving DecidableEq, Repr

namespace Draft

/-- The draft before the first token. -/
def start (settings : Settings) : Draft := ⟨settings, .empty, .empty⟩

/-- The draft after one more key and value. -/
def put (key : Key) (value : Text) (d : Draft) : Except Cause Draft :=
  match key with
  | .outline mark => do
    let outline ← (d.outline.step mark value).mapError (.outline mark)
    return { d with outline }
  | .tags list => .ok { d with tags := d.tags.add list value }
  | .setting s => do
    let settings ← (d.settings.set s value).mapError (.setting s)
    return { d with settings }

/-- The draft after one more token. -/
def feed (d : Draft) (token : Token) : Except TemplateError Draft :=
  (d.put token.key token.value).mapError (⟨token.position, ·⟩)

/-- The draft after further tokens, up to the first that does not fit. -/
def feedAll (tokens : List Token) (d : Draft) : Except TemplateError Draft :=
  tokens.foldlM feed d

/-- The configuration as it stands. -/
def config (d : Draft) : Config :=
  ⟨d.settings, d.tags, d.outline.rules, d.outline.questions⟩

end Draft

/-- The configuration of a template, every setting starting from `settings`. -/
def compileWith (settings : Settings) (source : Text) : Except TemplateError Config := do
  let tokens ← tokenize source
  let draft ← (Draft.start settings).feedAll tokens
  return draft.config

/-- The configuration of a template. -/
def compile (source : Text) : Except TemplateError Config :=
  compileWith .initial source

end Questionnaire
