import TagScript.Proofs.Build.Documents

/-!
# Lower and higher limits

How deep elements may be nested decides nothing but where a build is given up. Two builds of the
same document, one under a lower limit and one under a higher one, are compared step by step: they
do the same, until the first one finds an element nested too deeply.

* `Limit.AtMost` — a limit that another one does not fall short of.
* `Build.Within` — the invariant: both builds do the same, or the one with the lower limit fails.
* **`buildDocument_withMaxDepth`** — a document under a lower limit and under a higher one.
-/

namespace TagScript

/-- Whether a limit does not fall short of another one: what exceeds it exceeds that one too. -/
def Limit.AtMost (limit limit' : Limit) : Prop :=
  ∀ n, limit.isExceededBy n = .ok true ∨ limit'.isExceededBy n = limit.isExceededBy n

theorem Limit.atMost_whole {i j : Int} (h : i ≤ j) : (whole i).AtMost (whole j) := by
  intro n
  by_cases hlow : i < n
  · exact .inl (congrArg Except.ok (decide_eq_true hlow))
  · refine .inr (congrArg Except.ok ?_)
    rw [decide_eq_false hlow]
    exact decide_eq_false fun hhigh => hlow (Int.lt_of_le_of_lt h hhigh)

namespace Build

/-- Whether a step does the same as another one, or finds an element nested deeper than a setting
allows. -/
def Within (setting : Json) {α : Type} (m m' : Build α) : Prop :=
  ∀ s, m s = m' s ∨ ∃ tag, (m s).1 = .error (.tooDeep setting setting.shown tag)

variable {setting : Json} {α β : Type} {m m' : Build α}

theorem within_iff : Within setting m m' ↔
    SameUnless (fun fault => ∃ tag, fault = .tooDeep setting setting.shown tag) m m' := by
  refine forall_congr' fun s => or_congr_right ⟨?_, ?_⟩
  · rintro ⟨tag, hdeep⟩
    exact ⟨_, hdeep, tag, rfl⟩
  · rintro ⟨fault, hdeep, tag, rfl⟩
    exact ⟨tag, hdeep⟩

theorem within_refl (m : Build α) : Within setting m m :=
  within_iff.mpr (sameUnless_refl m)

theorem Within.bind {f f' : α → Build β} (h : Within setting m m')
    (hf : ∀ a, Within setting (f a) (f' a)) : Within setting (m >>= f) (m' >>= f') :=
  within_iff.mpr ((within_iff.mp h).bind fun a => within_iff.mp (hf a))

theorem Within.deeper (h : Within setting m m') : Within setting (deeper m) (deeper m') :=
  within_iff.mpr (within_iff.mp h).deeper

theorem Within.noteFault (logger : Logger) (h : Within setting m m') :
    Within setting (noteFault logger m) (noteFault logger m') :=
  within_iff.mpr ((within_iff.mp h).noteFault logger)

end Build

/-- The environment with another limit. -/
def BuildEnv.withMaxDepth (env : BuildEnv) (setting : Json) : BuildEnv :=
  { env with
    settings := { env.settings with maxDepth := .ofJson setting, maxDepthSetting := setting } }

/-- The configuration with another limit. -/
def Config.withMaxDepth (config : Config) (setting : Json) : Config :=
  { config with builder := { config.builder with maxDepth := setting } }

namespace BuildEnv

open Build

variable {env : BuildEnv} {setting : Json}
  (h : env.settings.maxDepth.AtMost (Limit.ofJson setting))
include h

theorem checkDepth_within (tag : QName) :
    Within env.settings.maxDepthSetting (checkDepth env tag)
      (checkDepth (env.withMaxDepth setting) tag) := by
  intro s
  rw [checkDepth, checkDepth, read_bind, read_bind]
  change (Build.lift (env.settings.maxDepth.isExceededBy s.depth) >>= _) s =
    (Build.lift ((Limit.ofJson setting).isExceededBy s.depth) >>= _) s ∨ _
  rcases h s.depth with hexceeded | hsame
  · rw [hexceeded]
    exact .inr ⟨tag.clark, rfl⟩
  · rw [hsame]
    rcases env.settings.maxDepth.isExceededBy s.depth with fault | exceeded
    · exact .inl rfl
    · cases exceeded with
      | false => exact .inl rfl
      | true => exact .inr ⟨tag.clark, rfl⟩

/-- The small steps are the same under both limits, but for finding out how deep elements are
nested. -/
theorem lockstep_withMaxDepth :
    Lockstep env (env.withMaxDepth setting) (Within env.settings.maxDepthSetting) where
  rootScope := rfl
  contentMarker := rfl
  value _ := within_refl _
  fault _ := within_refl _
  bind := Within.bind
  deeper := Within.deeper
  read _ := within_refl _
  addBinding _ _ := within_refl _
  changeScopes _ := within_refl _
  newScope _ _ := within_refl _
  nextChunk _ := within_refl _
  feedRow := feedAll_related (fun _ => within_refl _) Within.bind (within_refl _)
  template _ := within_refl _
  lookup _ _ _ := within_refl _
  malformed _ _ _ := within_refl _
  bindPrefix _ _ _ := within_refl _
  addAttribute _ _ _ _ := within_refl _
  warnUnresolved _ _ _ _ := within_refl _
  checkDepth := checkDepth_within h
  noteElement _ := within_refl _
  noteBlock _ _ := within_refl _

/-- **Every step of a build does the same under both limits, or fails under the lower one.** -/
theorem documenting_withMaxDepth :
    Lockstep.Documenting env (env.withMaxDepth setting) (Within env.settings.maxDepthSetting) where
  toInvoking := (lockstep_withMaxDepth h).invoking fun _ => within_refl _
  correlationId := rfl
  record _ _ _ _ _ := within_refl _
  enclose _ := within_refl _
  noteFault logger _ _ h := h.noteFault logger
  documentOf _ _ _ := within_refl _

end BuildEnv

/-- **A document under a lower limit is the one under a higher limit, or an element is nested too
deeply.** -/
theorem buildDocument_withMaxDepth {config : Config} {setting : Json}
    (h : config.settings.maxDepth.AtMost (Limit.ofJson setting)) (clock : Clock)
    (request : DocumentRequest) :
    buildDocument config clock request = buildDocument (config.withMaxDepth setting) clock request ∨
      ∃ tag, buildDocument config clock request =
        .error (.tooDeep config.builder.maxDepth config.builder.maxDepth.shown tag) := by
  let session := Session.create config clock none
  let session' := Session.create (config.withMaxDepth setting) clock none
  change (session.buildDocument request).1 = (session'.buildDocument request).1 ∨
    ∃ tag, (session.buildDocument request).1 = _
  cases hadd : Scopes.empty.add none request.parameters with
  | error fault =>
    have hbegin : session.beginBuild request.parameters .empty = .error fault :=
      congrArg (Except.map _) hadd
    have hbegin' : session'.beginBuild request.parameters .empty = .error fault :=
      congrArg (Except.map _) hadd
    unfold Session.buildDocument
    rw [hbegin, hbegin']
    exact .inl rfl
  | ok added =>
    let env : BuildEnv := ⟨config.settings, added.1, none⟩
    have hbegin : session.beginBuild request.parameters .empty =
        .ok (env, session.begun .empty added.2) := by
      rw [Session.beginBuild_eq]
      exact congrArg (Except.map _) hadd
    have hbegin' : session'.beginBuild request.parameters .empty =
        .ok (env.withMaxDepth setting, session.begun .empty added.2) := by
      rw [Session.beginBuild_eq]
      exact congrArg (Except.map _) hadd
    have L := @BuildEnv.documenting_withMaxDepth env setting h
    rw [Session.buildDocument_fst hbegin, Session.buildDocument_fst hbegin']
    rcases L.document (L.engine nestingBound) config.document request
      (session.begun .empty added.2) with hsame | hdeep
    · exact .inl (congrArg Prod.fst hsame)
    · exact .inr hdeep

end TagScript
