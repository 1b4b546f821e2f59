import TagScript.Build.Run

/-!
# Building documents

A document is built from the name and the content of its root element. Content that is a block is
run task by task while the root element takes its arguments, so what one statement declares holds
for the next one.
-/

namespace TagScript

/-- What a document is built from. -/
structure DocumentRequest where
  /-- The name of the root element; its namespace becomes the default one. -/
  root : Value
  /-- The content of the root element: block text, a block, a row of arguments, another argument, or
  null for none. -/
  content : Value := .null
  /-- Arguments of the root element that stand before its content. -/
  args : List Value := []
  /-- Variables for all blocks. -/
  parameters : List (String × Value) := []
  /-- The version to declare; the configured one if it counts as false. -/
  version : Json := .null
  /-- The encoding to declare; the configured one if it counts as false. -/
  encoding : Json := .null
  /-- The standalone flag to declare; the configured one if it is null. -/
  standalone : Json := .null

/-- The content of a root element. -/
inductive RootContent where
  /-- Arguments. -/
  | arguments (vs : List Value)
  /-- A block. -/
  | block (v : Value)

/-- What the given content of a root element is, when the parameters stand in the scope `root`. -/
def RootContent.ofValue (root : ScopeId) : Value → RootContent
  | .null => .arguments []
  | .list vs => .arguments vs
  | .tuple vs => .arguments vs
  | .str source => .block (.block ⟨source, some root, 1⟩)
  | .block b => .block (.block { b with scope := some root })
  | v => if v.isContentBlock then .block v else .arguments [v]

namespace Build

/-- Parameters hide the variables of the scope that a root block was written in. -/
def encloseParameters (env : BuildEnv) : Value → Build Unit
  | .block ⟨_, some scope, _⟩ => change fun s =>
    { s with scopes := s.scopes.enclose env.rootScope scope }
  | _ => pure ()

/-- Takes the arguments and the content of the root element. -/
def gatherRoot (E : Engine) (env : BuildEnv) (tag : QName) (args : List Value)
    (content : RootContent) (parts : Parts) : Build Parts := do
  let parts ← feedAll E env tag args parts
  match content with
  | .arguments vs => feedAll E env tag vs parts
  | .block v =>
    chunks E env v [] env.rootScope (fun parts vs => feedAll E env tag vs parts) parts

/-- The logger of a document build. -/
def documentLogger (env : BuildEnv) (tag : QName) : Logger :=
  (env.logger "document_assembler").bind [("root_tag", .str tag.clark)]

/-- Notes a fault of the build in the log before it ends the build. -/
def noteFault {α : Type} (logger : Logger) (body : Build α) : Build α :=
  fun s =>
    match body s with
    | (.ok a, s) => (.ok a, s)
    | (.error fault, s) =>
      if fault.isOfBuild then
        let record := logger.record .error "Document build failed"
          [("elements_built", .int s.metrics.elementsBuilt)] true
        (.error fault, { s with log := s.log.add record })
      else (.error fault, s)

/-- A build that came to a value had no fault to note. -/
theorem of_noteFault_ok {α : Type} {logger : Logger} {body : Build α} {a : α}
    {s s' : BuildState} (h : noteFault logger body s = (.ok a, s')) : body s = (.ok a, s') := by
  unfold noteFault at h
  split at h
  · rename_i hbody
    rw [hbody]
    exact h
  · split at h <;> cases h

/-- The document with a finished root element. -/
def documentOf (env : BuildEnv) (config : DocumentConfig) (request : DocumentRequest)
    (root : Element) : Build Document := do
  let version := if request.version.truthy then request.version else config.version
  let encoding := if request.encoding.truthy then request.encoding else config.encoding
  let standalone := match request.standalone with
    | .null => config.standalone
    | flag => flag
  let (diagnostics, metrics) ← read fun s => (s.diagnostics.toList, s.metrics)
  lift (Document.of (some root) version standalone encoding diagnostics (some metrics)
    env.correlationId)

/-- The name of a root element; a text is read in brace notation. -/
def rootName (root : Value) : Build QName :=
  match root with
  | .name q => pure q
  | v => lift (QName.parse v.plain)

/-- Binds the default namespace to the namespace of the root element, if it has one. -/
def bindRoot (tag : QName) : Build Unit :=
  match tag.uri with
  | none => pure ()
  | some uri => do
    let (_, registry) ← lift (← read fun s => s.registry.add "" uri)
    change fun s => { s with registry }

/-- Builds the root element. -/
def rootElement (E : Engine) (env : BuildEnv) (request : DocumentRequest) (tag : QName) :
    Build Element :=
  noteFault (documentLogger env tag) (elementWith env tag
    (gatherRoot E env tag request.args (RootContent.ofValue env.rootScope request.content)))

/-- Builds a document whose root element has this name. -/
def documentNamed (E : Engine) (env : BuildEnv) (config : DocumentConfig)
    (request : DocumentRequest) (tag : QName) : Build Document := do
  let logger := documentLogger env tag
  record logger .info "Starting document build"
    [("content_type", .str request.content.typeName),
      ("parameter_count", .int (Fields.ofList request.parameters).length)]
  encloseParameters env request.content
  let root ← rootElement E env request tag
  let d ← documentOf env config request root
  record logger .info "Document build completed"
    [("elements_built", .int (d.metrics.getD {}).elementsBuilt),
      ("diagnostic_count", .int d.diagnostics.length)]
  pure d

/-- Builds a document. -/
def document (E : Engine) (env : BuildEnv) (config : DocumentConfig) (request : DocumentRequest) :
    Build Document := do
  let tag ← rootName request.root
  bindRoot tag
  documentNamed E env config request tag

end Build

end TagScript
