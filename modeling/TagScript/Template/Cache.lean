import TagScript.Template

/-!
# The template cache

Making a template again for the same text, bindings, constructor and command words would give the
same template, so finished templates are kept: at most as many as the limit says, the least recently
used one going first. Which words are commands is represented by a version that changes with them.
-/

namespace TagScript

/-- A bound that a count is compared with. -/
inductive Limit where
  /-- A whole number. -/
  | whole (i : Int)
  /-- Any other number. -/
  | real (x : Float)
  /-- Something that has no order with numbers. -/
  | incomparable

/-- Whether a count is above a limit. -/
def Limit.isExceededBy (limit : Limit) (n : Nat) : Except Fault Bool :=
  match limit with
  | .whole i => .ok (decide (i < n))
  | .real x => .ok (x < Float.ofNat n)
  | .incomparable => .error (.wrongKind .unsupported)

/-- What a template depends on. -/
structure TemplateKey where
  /-- The block text. -/
  source : String
  /-- The namespace bindings, in the order of their prefixes. -/
  bindings : List (String × String)
  /-- The constructor command. -/
  constructorName : String
  /-- The version of the command words. -/
  version : Option Nat
  deriving Repr, DecidableEq

/-- How templates are made and kept. -/
structure CompilerSettings where
  /-- The constructor command. -/
  constructor : Constructor
  /-- Whether templates are kept. -/
  caching : Bool
  /-- How many templates are kept. -/
  limit : Limit

/-- What making templates asks of its surroundings. -/
structure CompilerHost where
  /-- Whether texts can be read. -/
  tokenizes : Bool
  /-- Which words are commands, if anyone can tell. -/
  knows : Option (String → Bool)
  /-- The version of the command words, if they have one. -/
  version : Option Nat

/-- The kept templates, the one used last at the end, and how often they were asked for. -/
structure Cache where
  /-- The kept templates. -/
  entries : List (TemplateKey × Template)
  /-- How often a template was found. -/
  hits : Nat
  /-- How often a template was not found. -/
  misses : Nat
  deriving Inhabited

/-- What a request for a template comes to. -/
structure Compilation where
  /-- The cache afterwards. -/
  cache : Cache
  /-- What happened. -/
  events : List CompileEvent
  /-- Whether the template was found in the cache. -/
  found : Bool
  /-- The template. -/
  outcome : Except Fault Template

namespace Cache

/-- A cache that was never asked. -/
def empty : Cache := ⟨[], 0, 0⟩

/-- Forgets all templates; the counts stay. -/
def clear (c : Cache) : Cache := { c with entries := [] }

/-- The number of kept templates. -/
def size (c : Cache) : Nat := c.entries.length

/-- Drops templates from the front, the least recently used ones, down to the limit. What is left
when that fails: a limit without order drops nothing, and one below zero everything. -/
def trimTo (limit : Limit) : List (TemplateKey × Template) →
    List (TemplateKey × Template) × Except Fault Unit
  | [] =>
    match limit.isExceededBy 0 with
    | .ok true => ([], .error (.missingKey "no template is left"))
    | .ok false => ([], .ok ())
    | .error f => ([], .error f)
  | entry :: rest =>
    match limit.isExceededBy (rest.length + 1) with
    | .ok true => trimTo limit rest
    | .ok false => (entry :: rest, .ok ())
    | .error f => (entry :: rest, .error f)

/-- Whether a limit is zero. -/
def limitIsZero : Limit → Bool
  | .whole i => i == 0
  | .real x => x == 0.0
  | .incomparable => false

/-- Keeps a finished template. It is kept also when the limit then turns out to be none. -/
def put (settings : CompilerSettings) (c : Cache) (key : TemplateKey) (t : Template) :
    Cache × Except Fault Unit :=
  if !settings.caching || limitIsZero settings.limit then (c, .ok ())
  else
    let (entries, result) := trimTo settings.limit (Fields.insert c.entries key t)
    ({ c with entries }, result)

/-- Makes a template that is not kept, and keeps it. -/
def compileNew (settings : CompilerSettings) (knows : String → Bool) (registry : Registry)
    (key : TemplateKey) (c : Cache) : Compilation :=
  match Template.ofSource knows registry settings.constructor key.source with
  | (events, .error f) => ⟨c, events, false, .error f⟩
  | (events, .ok t) =>
    match c.put settings key t with
    | (c, .ok ()) => ⟨c, events, false, .ok t⟩
    | (c, .error f) => ⟨c, events.dropLast, false, .error f⟩

/-- The template of a block text: the kept one, which then counts as used last, or a new one. -/
def compile (settings : CompilerSettings) (host : CompilerHost) (registry : Registry)
    (source : String) (c : Cache) : Compilation :=
  if !host.tokenizes then ⟨c, [], false, .error (.missingCapability "tokenizer")⟩
  else
    match host.knows with
    | none => ⟨c, [], false, .error (.missingCapability "command resolver")⟩
    | some knows =>
      let key : TemplateKey := ⟨source, registry.sorted, settings.constructor.word, host.version⟩
      if settings.caching then
        if !settings.constructor.isFixed then ⟨c, [], false, .error (.wrongKind .unsupported)⟩
        else
          match Fields.get? c.entries key with
          | some t =>
            ⟨{ c with entries := Fields.erase c.entries key ++ [(key, t)], hits := c.hits + 1 },
              t.unresolved.map .unresolved, true, .ok t⟩
          | none => compileNew settings knows registry key { c with misses := c.misses + 1 }
      else compileNew settings knows registry key c

end Cache

end TagScript
