import TagScript.Fault
import TagScript.Number.Amount

/-!
# Metrics

Counts that are kept while a document is built, and the rates that follow from them.
-/

namespace TagScript

/-- What was done during a build, counted. -/
structure Metrics where
  /-- Finished elements. -/
  elementsBuilt : Nat := 0
  /-- Attributes of finished elements, namespace declarations included. -/
  attributesEmitted : Nat := 0
  /-- Blocks that ran to their end. -/
  blocksExecuted : Nat := 0
  /-- Blocks for which a template was made. -/
  blocksCompiled : Nat := 0
  /-- Element words in the templates of the blocks that were run. -/
  wordsRewritten : Nat := 0
  /-- Blocks whose template was kept from before. -/
  cacheHits : Nat := 0
  /-- Blocks whose template was not kept. -/
  cacheMisses : Nat := 0
  deriving Repr, DecidableEq, Inhabited

namespace Metrics

open Number

/-- The counts with their names. -/
def counts (m : Metrics) : List (String × Nat) := [
  ("elements_built", m.elementsBuilt), ("attributes_emitted", m.attributesEmitted),
  ("blocks_executed", m.blocksExecuted), ("blocks_compiled", m.blocksCompiled),
  ("duds_rewritten", m.wordsRewritten), ("cache_hits", m.cacheHits),
  ("cache_misses", m.cacheMisses)]

/-- The share of blocks whose template was kept from before; zero if there were none. -/
def cacheHitRate (m : Metrics) : Float :=
  let all := m.cacheHits + m.cacheMisses
  if all = 0 then 0.0 else nearest false m.cacheHits all

/-- The result of a calculation, which fails when a number is too large for it. -/
def calculated {α : Type} : Option α → Except Fault α
  | some a => .ok a
  | none => .error (.overflow "number too large for a float")

/-- The share of hits among all requests; zero if there were none. -/
def hitRate (hits misses : Amount) : Except Fault Float := do
  let all ← calculated (hits.add? misses)
  if all.isZero then .ok 0.0 else calculated (hits.divide? all)

/-- Elements for each second, when they took so many milliseconds; zero if they took no time. -/
def elementsPerSecond (elements milliseconds : Amount) : Except Fault Float := do
  if milliseconds.isNotPositive then .ok 0.0
  else
    let x ← calculated elements.toFloat?
    let y ← calculated milliseconds.toFloat?
    .ok (x * 1000.0 / y)

/-- What was never asked for was not found either. -/
theorem cacheHitRate_default : cacheHitRate {} = 0.0 := rfl

end Metrics

end TagScript
