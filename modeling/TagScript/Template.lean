import TagScript.Json.Same
import TagScript.Template.Rewrite
import TagScript.Template.Word
import TagScript.Token.Lexer

/-!
# Templates

A template is a block text made ready to run: its element words are constructor calls with resolved
names, and its tokens are at hand. It depends only on the text, the namespace bindings, the
constructor name and which words are commands.
-/

namespace TagScript

/-- The command that makes elements. -/
structure Constructor where
  /-- The setting that names it. -/
  setting : Json
  /-- What is written for it. -/
  word : String
  deriving Inhabited

/-- Whether templates can be told apart by the setting: lists and objects can change. -/
def Constructor.isFixed (c : Constructor) : Bool :=
  match c.setting with
  | .arr _ | .obj _ => false
  | _ => true

/-- A block text made ready to run. -/
structure Template where
  /-- The text as written. -/
  source : String
  /-- The text with constructor calls. -/
  compiled : String
  /-- The tokens of the compiled text. -/
  tokens : List Token
  /-- The element words of the text as written. -/
  words : List Token
  /-- Those of them whose prefix was unbound. -/
  unresolved : List Token
  /-- The namespace bindings, in the order of their prefixes. -/
  bindings : List (String × String)
  /-- The constructor command. -/
  constructor : Constructor
  deriving Inhabited

/-- Whether the compiled text differs from the text as written. -/
def Template.wasRewritten (t : Template) : Bool :=
  !t.words.isEmpty

/-- Whether two templates are the same in all their parts. -/
def Template.same (t u : Template) : Bool :=
  t.source == u.source && t.compiled == u.compiled && t.tokens == u.tokens && t.words == u.words
    && t.unresolved == u.unresolved && t.bindings == u.bindings
    && t.constructor.setting.same u.constructor.setting

/-- What happens while a template is made, as far as logs and reports show it. -/
inductive CompileEvent where
  /-- A text was read: its numbers of tokens and of lines. -/
  | tokenized (tokens lines : Nat)
  /-- Words were looked at: the number of element words. -/
  | classified (words : Nat)
  /-- The prefix of an element word is unbound. -/
  | unresolved (word : Token)
  /-- The template is ready: its numbers of element words and of tokens. -/
  | compiled (words tokens : Nat)
  deriving Repr, DecidableEq

/-- The words that events report as unresolved, in order. -/
def CompileEvent.unresolvedWords (events : List CompileEvent) : List Token :=
  events.filterMap fun e =>
    match e with
    | .unresolved word => some word
    | _ => none

/-- Reading a text, with the event of having done so. -/
def tokenizeWithEvent (source : String) : List CompileEvent × Except Fault (List Token) :=
  match tokenize source with
  | .error f => ([], .error f)
  | .ok ts => ([.tokenized ts.length (source.toList.count '\n' + 1)], .ok ts)

/-- Makes a template when its tokens and element words are known. -/
def Template.finish (known : String → Bool) (registry : Registry) (constructor : Constructor)
    (source : String) (ts : List Token) : List CompileEvent × Except Fault Template :=
  let words := Token.elementWords known true ts
  let looked := .classified words.length :: (unresolvedInRewriting words registry).map .unresolved
  match rewrite source words registry constructor.word with
  | .error f => (looked, .error f)
  | .ok compiled =>
    let (read, again) := if words.isEmpty then ([], .ok ts) else tokenizeWithEvent compiled
    match again with
    | .error f => (looked ++ read, .error f)
    | .ok tokens =>
      (looked ++ read ++ [.compiled words.length tokens.length],
        .ok {
          source, compiled, tokens, words, constructor
          unresolved := words.filter (isUnresolved registry)
          bindings := registry.sorted })

/-- Makes a template from a block text. -/
def Template.ofSource (known : String → Bool) (registry : Registry) (constructor : Constructor)
    (source : String) : List CompileEvent × Except Fault Template :=
  match tokenizeWithEvent source with
  | (events, .error f) => (events, .error f)
  | (events, .ok ts) =>
    let (more, result) := Template.finish known registry constructor source ts
    (events ++ more, result)

end TagScript
