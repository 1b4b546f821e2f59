import TagScript.Build.Argument

/-!
# Building elements

An element is made from its name and its arguments, one level deeper than what surrounds it. The
arguments are taken in order, so content runs under all bindings that were declared before it.
-/

namespace TagScript.Build

/-- The name of an element: a text is resolved against the bindings unless it is in brace notation.
-/
def elementName (tag : Value) : Build QName :=
  match tag with
  | .name q => pure q
  | .str text => do lift (← read fun s => s.registry.nameOf text)
  | v => lift (QName.parse v.plain)

/-- Fails when elements are nested too deeply. -/
def checkDepth (env : BuildEnv) (tag : QName) : Build Unit := do
  if ← lift (env.settings.maxDepth.isExceededBy (← read (·.depth))) then
    let setting := env.settings.maxDepthSetting
    fail (.tooDeep setting setting.shown tag.clark)

/-- Counts a finished element and notes it in the log. -/
def noteElement (env : BuildEnv) (e : Element) : Build Unit := do
  count fun m =>
    { m with
      elementsBuilt := m.elementsBuilt + 1
      attributesEmitted := m.attributesEmitted + e.attributes.length }
  let depth ← read (·.depth)
  record (elementLogger env) .debug "Element built"
    [("tag", .str e.tag.clark), ("attribute_count", .int e.attributes.length),
      ("child_count", .int e.children.length), ("depth", .int (depth + 1))]

/-- Builds an element whose parts are gathered by `gather`. -/
def elementWith (env : BuildEnv) (tag : QName) (gather : Parts → Build Parts) : Build Element := do
  let e ← deeper do
    checkDepth env tag
    let parts ← finish env tag (← gather {})
    pure (Element.mk tag parts.attributes parts.children)
  noteElement env e
  pure e

/-- Builds an element from arguments. -/
def element (E : Engine) (env : BuildEnv) (tag : Value) (args : List Value) : Build Element := do
  let name ← elementName tag
  elementWith env name (feedAll E env name args)

end TagScript.Build
