import Plotter.Proofs.Coherence
import Plotter.Proofs.GraphDocuments

set_option autoImplicit false

namespace Plotter

theorem flaw_none_iff (formula : Formula) :
    formula.flaw? = none ↔ (formula.disabled = false → Expression.flaw formula.expression = none) := by
  cases disabled : formula.disabled <;> simp [Formula.flaw?, disabled]

theorem flaw_some_iff (formula : Formula) (flaw : Expression.Flaw) :
    formula.flaw? = some flaw ↔ formula.disabled = false ∧ Expression.flaw formula.expression = some flaw := by
  cases disabled : formula.disabled <;> simp [Formula.flaw?, disabled]

theorem first_flaw_none_iff (start : Nat) (formulas : List Formula) :
    Rig.firstFlaw start formulas = none ↔ ∀ formula ∈ formulas, formula.flaw? = none := by
  induction formulas generalizing start with
  | nil => simp [Rig.firstFlaw]
  | cons formula rest ih =>
      rw [Rig.firstFlaw]
      cases flawed : formula.flaw? with
      | some flaw => simp [flawed]
      | none => simp [flawed, ih]

theorem first_flaw_found (start : Nat) (formulas : List Formula) (position : Nat) (flaw : Expression.Flaw)
    (found : Rig.firstFlaw start formulas = some (position, flaw)) :
    ∃ index formula, formulas[index]? = some formula ∧ position = start + index ∧ formula.flaw? = some flaw ∧
      ∀ earlier other, earlier < index → formulas[earlier]? = some other → other.flaw? = none := by
  -- On the formulas, with the start free, since positions are counted from there.
  induction formulas generalizing start with
  | nil => cases found
  | cons formula rest ih =>
      rw [Rig.firstFlaw] at found
      cases flawed : formula.flaw? with
      | some first =>
          rw [flawed] at found
          cases found
          exact ⟨0, formula, rfl, rfl, flawed, fun earlier _ before => absurd before (Nat.not_lt_zero earlier)⟩
      | none =>
          rw [flawed] at found
          obtain ⟨index, culprit, there, place, wrong, sound⟩ := ih (start + 1) found
          refine ⟨index + 1, culprit, there, by omega, wrong, ?_⟩
          intro earlier other before read
          cases earlier with
          | zero =>
              cases read
              exact flawed
          | succ earlier => exact sound earlier other (Nat.lt_of_succ_lt_succ before) read

inductive Rig.Filled (rig : Rig) (formulas : List Formula) : Except EngineFault Unit × Rig → Prop where
  | taken (sound : ∀ formula ∈ formulas, formula.flaw? = none) :
      Filled rig formulas
        (.ok (), ⟨{ rig.engine with equations := enabledExpressions formulas }, rig.journal.push (.setEquations formulas)⟩)
  | refused (index : Nat) (formula : Formula) (flaw : Expression.Flaw) (there : formulas[index]? = some formula)
      (wrong : formula.flaw? = some flaw)
      (sound : ∀ earlier other, earlier < index → formulas[earlier]? = some other → other.flaw? = none) :
      Filled rig formulas
        (.error ⟨flawMessage (1 + index) flaw⟩, ⟨rig.engine, rig.journal.push (.setEquations formulas)⟩)

theorem set_equations_cases (rig : Rig) (formulas : List Formula) : rig.Filled formulas (rig.setEquations formulas) := by
  rw [Rig.setEquations, Rig.record]
  cases flawed : Rig.firstFlaw 1 formulas with
  | none => exact .taken ((first_flaw_none_iff 1 formulas).mp flawed)
  | some found =>
      obtain ⟨index, formula, there, place, wrong, sound⟩ := first_flaw_found 1 formulas found.1 found.2 flawed
      dsimp only
      rw [place]
      exact .refused index formula found.2 there wrong sound

theorem filled_ok_iff (rig next : Rig) (formulas : List Formula) (answer : Except EngineFault Unit)
    (filled : rig.Filled formulas (answer, next)) :
    answer = .ok () ↔ ∀ formula ∈ formulas, formula.flaw? = none := by
  cases filled with
  | taken sound => exact iff_of_true rfl sound
  | refused index formula flaw there wrong sound =>
      refine iff_of_false (by simp) ?_
      intro all
      have clean := all formula (List.mem_of_getElem? there)
      rw [wrong] at clean
      cases clean

theorem equations_all_or_nothing (rig : Rig) (formulas : List Formula) :
    let answer := (rig.setEquations formulas).1
    let next := (rig.setEquations formulas).2
    next.journal = rig.journal.push (.setEquations formulas) ∧
    (answer = .ok () ↔
      ∀ formula ∈ formulas, formula.disabled = false → Expression.flaw formula.expression = none) ∧
    (answer = .ok () →
      next.engine = { rig.engine with
        equations := (formulas.filter fun formula => !formula.disabled).map Formula.expression }) ∧
    (∀ fault, answer = .error fault → next.engine = rig.engine ∧
      ∃ index formula flaw, formulas[index]? = some formula ∧
        formula.disabled = false ∧ Expression.flaw formula.expression = some flaw ∧
        (∀ earlier other, earlier < index → formulas[earlier]? = some other → other.disabled = false →
          Expression.flaw other.expression = none) ∧
        fault.message = "Error on equation " ++ toString (index + 1) ++ "\n" ++ flaw.message) := by
  intro answer next
  have filled : rig.Filled formulas (answer, next) := set_equations_cases rig formulas
  have accepted := filled_ok_iff rig next formulas answer filled
  simp only [flaw_none_iff] at accepted
  clear_value answer next
  cases filled with
  | taken sound =>
      refine ⟨rfl, accepted, fun _ => rfl, ?_⟩
      intro fault failed
      cases failed
  | refused index formula flaw there wrong sound =>
      refine ⟨rfl, accepted, fun done => (nomatch done), ?_⟩
      intro fault failed
      cases failed
      obtain ⟨enabled, reason⟩ := (flaw_some_iff formula flaw).mp wrong
      refine ⟨rfl, index, formula, flaw, there, enabled, reason, ?_, ?_⟩
      · intro earlier other before read
        exact (flaw_none_iff other).mp (sound earlier other before read)
      · rw [Nat.add_comm index 1]
        rfl

example (rig : Rig) :
    (rig.setEquations [⟨true, "("⟩, ⟨false, "f(x)=x"⟩, ⟨false, "x)"⟩, ⟨false, ""⟩]).1 =
      .error ⟨"Error on equation 3\nunexpected `)`"⟩ := rfl

namespace Graph

def enabled (graph : Graph) : List Equation := graph.equations.filter fun equation => !equation.disabled

def Sound (graph : Graph) : Prop :=
  ∀ equation ∈ graph.equations, equation.disabled = false → Expression.flaw equation.expression = none

def Culprit (graph : Graph) (equation : Equation) (flaw : Expression.Flaw) : Prop :=
  equation ∈ graph.equations ∧ equation.disabled = false ∧ Expression.flaw equation.expression = some flaw ∧
    ∀ other ∈ graph.equations, other.index < equation.index → other.disabled = false →
      Expression.flaw other.expression = none

@[simp] theorem enabled_payload (graph : Graph) :
    Rig.enabledExpressions graph.payload = graph.enabled.map Equation.expression := by
  rw [Rig.enabledExpressions, payload, enabled, List.filter_map, List.map_map]
  rfl

theorem enabled_ordered (graph : Graph) (dense : Dense graph.equations) :
    graph.enabled.Pairwise fun first second => first.index < second.index := by
  have places := (dense_iff_range graph.equations).mp dense
  have ordered : graph.equations.Pairwise fun first second => first.index < second.index := by
    rw [← List.pairwise_map, places]
    exact List.pairwise_lt_range
  exact ordered.sublist List.filter_sublist

theorem payload_sound_iff (graph : Graph) : Rig.firstFlaw 1 graph.payload = none ↔ graph.Sound := by
  rw [first_flaw_none_iff, payload, List.forall_mem_map, Sound]
  constructor
  · intro sound equation member
    exact (flaw_none_iff _).mp (sound equation member)
  · intro sound equation member
    exact (flaw_none_iff _).mpr (sound equation member)

theorem payload_culprit (graph : Graph) (position : Nat) (flaw : Expression.Flaw) (dense : Dense graph.equations)
    (found : Rig.firstFlaw 1 graph.payload = some (position, flaw)) :
    ∃ equation, graph.Culprit equation flaw ∧ position = equation.index + 1 := by
  obtain ⟨index, formula, there, place, wrong, sound⟩ := first_flaw_found 1 graph.payload position flaw found
  rw [payload, List.getElem?_map] at there
  obtain ⟨equation, read, rfl⟩ := Option.map_eq_some_iff.mp there
  obtain ⟨enabled, flawed⟩ := (flaw_some_iff _ flaw).mp wrong
  have own := dense index equation read
  refine ⟨equation, ⟨List.mem_of_getElem? read, enabled, flawed, ?_⟩, by omega⟩
  intro other member before
  -- Density turns the lower index into an earlier place, where the engine looked first.
  obtain ⟨earlier, found⟩ := List.mem_iff_getElem?.mp member
  have lower := dense earlier other found
  have listed : graph.payload[earlier]? = some ⟨other.disabled, other.expression⟩ := by
    rw [payload, List.getElem?_map, found]
    rfl
  exact (flaw_none_iff _).mp (sound earlier _ (by omega) listed)

theorem culprit_unsound (graph : Graph) (equation : Equation) (flaw : Expression.Flaw)
    (culprit : graph.Culprit equation flaw) : ¬ graph.Sound := by
  obtain ⟨member, enabled, flawed, _⟩ := culprit
  intro sound
  have clean := sound equation member enabled
  rw [flawed] at clean
  cases clean

inductive Refused (graph : Graph) (rig : Rig) : EngineFault → Prop where
  | flag (fault : EngineFault) (failing : (rig.setAnimationEnabled graph.animate).1 = .error fault) :
      Refused graph rig fault
  | equation (equation : Equation) (flaw : Expression.Flaw)
      (obeying : (rig.setAnimationEnabled graph.animate).1 = .ok ()) (culprit : graph.Culprit equation flaw) :
      Refused graph rig ⟨Rig.flawMessage (equation.index + 1) flaw⟩

theorem refused_unaccepted (graph : Graph) (rig : Rig) (fault : EngineFault) (refused : graph.Refused rig fault) :
    ¬ ((rig.setAnimationEnabled graph.animate).1 = .ok () ∧ graph.Sound) := by
  intro ⟨obeying, sound⟩
  cases refused with
  | flag _ failing =>
      rw [obeying] at failing
      cases failing
  | equation equation flaw _ culprit => exact culprit_unsound graph equation flaw culprit sound

end Graph

inductive Loaded (rig : Rig) (graph : Graph) : Except EngineFault Unit × Engine → Prop where
  | taken (obeying : (rig.setAnimationEnabled graph.animate).1 = .ok ()) (sound : graph.Sound) :
      Loaded rig graph
        (.ok (), { rig.engine with animate := graph.animate, equations := graph.enabled.map Equation.expression })
  | refused (fault : EngineFault) (refused : graph.Refused rig fault) :
      Loaded rig graph (.error fault, { rig.engine with animate := graph.animate })

theorem load_cases (rig : Rig) (graph : Graph) (dense : Graph.Dense graph.equations) :
    Loaded rig graph ((rig.load graph).1, (rig.load graph).2.engine) := by
  have answer : (rig.setAnimationEnabled graph.animate).1 = Rig.outcome rig.engine.animationFault := rfl
  cases failing : rig.engine.animationFault with
  | some fault =>
      rw [failing] at answer
      rw [load_failing rig graph fault failing]
      exact .refused fault (.flag fault answer)
  | none =>
      rw [failing] at answer
      cases flawed : Rig.firstFlaw 1 graph.payload with
      | none =>
          rw [load_sound rig graph failing flawed, Graph.enabled_payload]
          exact .taken answer ((Graph.payload_sound_iff graph).mp flawed)
      | some found =>
          obtain ⟨position, flaw⟩ := found
          obtain ⟨equation, culprit, rfl⟩ := Graph.payload_culprit graph position flaw dense flawed
          rw [load_flawed rig graph _ flaw failing flawed]
          exact .refused _ (.equation equation flaw answer culprit)

namespace Session

theorem engine_live (session : Session) (engine : Engine) (found : session.engine? = some engine) :
    session.engineIsLive = true := by
  rw [← engine_shown, found]
  rfl

theorem engine_dead (session : Session) (dead : session.engineIsLive = false) : session.engine? = none := by
  rw [← engine_shown] at dead
  exact Option.isNone_iff_eq_none.mp (Option.isSome_eq_false_iff.mp dead)

theorem engine_dead_iff (session : Session) (coherent : session.Coherent) :
    session.engineIsLive = false ↔ ∀ slot ∈ session.pool.slots, slot.live = false := by
  rw [← quiet_slots, quiet_iff, ← engine_live_iff session coherent, Bool.not_eq_true]

/-- All that a reload can do, seen from the engine and not from the handle: a session that has lost its engine
finds out, and says no more about the graph than one that never had one. -/
inductive Pushed (session : Session) (graph : Graph) : Except Error Bool × Session → Prop where
  | idle (dead : session.engineIsLive = false) (unheld : session.lease = none) :
      Pushed session graph (.ok false, session)
  | lost (dead : session.engineIsLive = false) (held : session.lease ≠ none) :
      Pushed session graph
        (.ok false, { session with frames := session.frames.stop, lease := none, stored := .released })
  | taken (engine : Engine) (pool : Pool) (found : session.engine? = some engine)
      (obeying : (Rig.setAnimationEnabled ⟨engine, session.pool.journal⟩ graph.animate).1 = .ok ())
      (sound : graph.Sound)
      (changed : session.lease.bind pool.engine? =
        some { engine with animate := graph.animate, equations := graph.enabled.map Equation.expression }) :
      Pushed session graph (.ok true, { session with pool := pool })
  | refused (engine : Engine) (pool : Pool) (fault : EngineFault) (found : session.engine? = some engine)
      (cause : graph.Refused ⟨engine, session.pool.journal⟩ fault)
      (changed : session.lease.bind pool.engine? = some { engine with animate := graph.animate }) :
      Pushed session graph
        (.error (.sync fault),
          { session with pool := pool, notices := session.notices.push ⟨.error, fault.message⟩ })

theorem forget_lost (session : Session) (handle : Handle) (coherent : session.Coherent)
    (held : session.lease = some handle) (dead : session.pool.isLive handle = false) :
    session.forgetReleasedEngine =
      { session with frames := session.frames.stop, lease := none, stored := .released } := by
  have ready : session.stored = .ready := coherent.ready.mpr (by simp [held])
  rw [forget_next, let_go_some session handle held, release_dead session.pool handle dead, if_pos ready]

theorem loaded_engine (session : Session) (graph : Graph) (handle : Handle) (next : Pool)
    (answer : Except EngineFault Unit) (held : session.lease = some handle) (dense : Graph.Dense graph.equations)
    (done : session.pool.withEngine handle (fun rig => rig.load graph) = some (answer, next)) :
    ∃ engine changed, session.engine? = some engine ∧
      session.lease.bind next.engine? = some changed ∧
      Loaded ⟨engine, session.pool.journal⟩ graph (answer, changed) := by
  obtain ⟨engine, rig, found, ran, _⟩ := with_engine_some session.pool next handle _ answer done
  obtain ⟨same, leased, kept⟩ := with_engine_found session.pool next handle _ answer done
  cases found.symm.trans leased
  have outcome := load_cases ⟨engine, session.pool.journal⟩ graph dense
  rw [ran] at outcome kept
  exact ⟨engine, rig.engine, by simp [engine?, held, found], by simp [held, kept], outcome⟩

theorem reload_pushed (session : Session) (graph : Graph) (coherent : session.Coherent) (built : graph.Built) :
    session.Pushed graph (session.reload graph) := by
  have dense := Graph.built_dense graph built
  have reloaded := reload_cases session graph
  generalize session.reload graph = result at reloaded ⊢
  cases reloaded with
  | absent unheld => exact .idle (by simp [engineIsLive, unheld]) unheld
  -- The graph was built by its own operations, so its indices are never the reason.
  | misplaced handle held defect flawed =>
      rw [Graph.built_valid graph built] at flawed
      cases flawed
  | lost handle held _ dead =>
      rw [forget_lost session handle coherent held dead]
      exact .lost (by simp [engineIsLive, held, dead]) (by simp [held])
  | loaded handle held _ next done =>
      obtain ⟨engine, changed, found, kept, outcome⟩ := loaded_engine session graph handle next _ held dense done
      cases outcome with
      | taken obeying sound => exact .taken engine next found obeying sound kept
  | refused handle held _ fault next done =>
      obtain ⟨engine, changed, found, kept, outcome⟩ := loaded_engine session graph handle next _ held dense done
      cases outcome with
      | refused _ cause => exact .refused engine next fault found cause kept

section

variable (session next : Session) (graph : Graph) (answer : Except Error Bool)

theorem pushed_false_iff (pushed : session.Pushed graph (answer, next)) :
    answer = .ok false ↔ session.engineIsLive = false := by
  cases pushed with
  | idle dead unheld => simp [dead]
  | lost dead held => simp [dead]
  | taken engine pool found obeying sound changed => simp [engine_live session engine found]
  | refused engine pool fault found cause changed => simp [engine_live session engine found]

theorem pushed_true_iff (pushed : session.Pushed graph (answer, next)) :
    answer = .ok true ↔ ∃ engine, session.engine? = some engine ∧
      (Rig.setAnimationEnabled ⟨engine, session.pool.journal⟩ graph.animate).1 = .ok () ∧ graph.Sound := by
  cases pushed with
  | idle dead unheld => simp [engine_dead session dead]
  | lost dead held => simp [engine_dead session dead]
  | taken engine pool found obeying sound changed => simp [found, obeying, sound]
  | refused engine pool fault found cause changed =>
      have unaccepted := Graph.refused_unaccepted graph _ fault cause
      simp only [found, Option.some.injEq, exists_eq_left', unaccepted, reduceCtorEq]

theorem pushed_frame (pushed : session.Pushed graph (answer, next)) :
    next.liveCamera = session.liveCamera ∧ next.controller = session.controller ∧
      next.viewport = session.viewport ∧ next.surface = session.surface ∧ next.config = session.config ∧
      next.frames.ticksRendered = session.frames.ticksRendered ∧
      next.frames.tickFaults = session.frames.tickFaults := by
  rw [liveCamera, liveCamera]
  cases pushed with
  | idle dead unheld => simp
  | lost dead held =>
      rw [engine_dead session dead]
      exact ⟨rfl, rfl, rfl, rfl, rfl, stop_rendered _, stop_faults _⟩
  | taken engine pool found obeying sound changed =>
      rw [found, engine?, changed]
      simp
  | refused engine pool fault found cause changed =>
      rw [found, engine?, changed]
      simp

theorem pushed_holding (pushed : session.Pushed graph (answer, next))
    (known : session.engineIsLive = true ∨ session.lease = none) :
    next.frames = session.frames ∧ next.lease = session.lease ∧ next.stored = session.stored := by
  cases pushed with
  | lost dead held =>
      obtain live | unheld := known
      · rw [dead] at live
        cases live
      · exact absurd unheld held
  | idle dead unheld => exact ⟨rfl, rfl, rfl⟩
  | taken engine pool found obeying sound changed => exact ⟨rfl, rfl, rfl⟩
  | refused engine pool fault found cause changed => exact ⟨rfl, rfl, rfl⟩

theorem pushed_losing (pushed : session.Pushed graph (answer, next)) (dead : session.engineIsLive = false)
    (held : session.lease ≠ none) :
    next.frames = session.frames.stop ∧ next.lease = none ∧ next.stored = .released := by
  cases pushed with
  | lost _ _ => exact ⟨rfl, rfl, rfl⟩
  | idle _ unheld => exact absurd unheld held
  | taken engine pool found obeying sound changed =>
      rw [engine_live session engine found] at dead
      cases dead
  | refused engine pool fault found cause changed =>
      rw [engine_live session engine found] at dead
      cases dead

end

end Session

theorem reload_end_to_end (plan : List Provision) (surface : Surface) (config : Config)
    (session current next : Session) (stage : Stage) (graph : Graph) (answer : Except Error Bool)
    (created : Session.create plan surface config = .ok session)
    (reached : Stage.Reachable (.create session) stage) (playing : stage.play = .ok current)
    (built : graph.Built) (reloaded : current.reload graph = (answer, next)) :
    (answer = .ok true ∨ answer = .ok false ∨ ∃ fault, answer = .error (.sync fault)) ∧
    (answer = .ok false ↔ ∀ slot ∈ current.pool.slots, slot.live = false) ∧
    (answer = .ok false → next.pool = current.pool ∧ next.notices = current.notices) ∧
    (answer = .ok true ↔ ∃ engine, current.engine? = some engine ∧
      (Rig.setAnimationEnabled ⟨engine, current.pool.journal⟩ graph.animate).1 = .ok () ∧ graph.Sound) ∧
    (answer = .ok true → ∃ engine, current.engine? = some engine ∧
      next.engine? = some
        { engine with animate := graph.animate, equations := graph.enabled.map Equation.expression } ∧
      (graph.enabled.Pairwise fun first second => first.index < second.index) ∧
      next.notices = current.notices) ∧
    (∀ fault, answer = .error (.sync fault) → ∃ engine, current.engine? = some engine ∧
      next.engine? = some { engine with animate := graph.animate } ∧
      next.notices = current.notices.push ⟨.error, fault.message⟩ ∧
      ((Rig.setAnimationEnabled ⟨engine, current.pool.journal⟩ graph.animate).1 = .error fault ∨
        (Rig.setAnimationEnabled ⟨engine, current.pool.journal⟩ graph.animate).1 = .ok () ∧
          ∃ equation flaw, graph.Culprit equation flaw ∧
            fault.message = "Error on equation " ++ toString (equation.index + 1) ++ "\n" ++ flaw.message)) ∧
    (next.liveCamera = current.liveCamera ∧ next.controller = current.controller ∧
      next.viewport = current.viewport ∧ next.surface = current.surface ∧ next.config = current.config ∧
      next.frames.ticksRendered = current.frames.ticksRendered ∧
      next.frames.tickFaults = current.frames.tickFaults) ∧
    (current.engineIsLive = true ∨ current.lease = none →
      next.frames = current.frames ∧ next.lease = current.lease ∧ next.stored = current.stored) ∧
    (current.engineIsLive = false → current.lease ≠ none →
      next.frames = current.frames.stop ∧ next.lease = none ∧ next.stored = .released) := by
  have coherent := Stage.playing_coherent plan surface config session current stage created reached playing
  have pushed := Session.reload_pushed current graph coherent built
  rw [reloaded] at pushed
  have missing := Session.pushed_false_iff current next graph answer pushed
  have accepted := Session.pushed_true_iff current next graph answer pushed
  have frame := Session.pushed_frame current next graph answer pushed
  have holding := Session.pushed_holding current next graph answer pushed
  have losing := Session.pushed_losing current next graph answer pushed
  have ordered := Graph.enabled_ordered graph (Graph.built_dense graph built)
  rw [Session.engine_dead_iff current coherent] at missing
  refine ⟨?_, missing, ?_, accepted, ?_, ?_, frame, holding, losing⟩
  · cases pushed <;> simp
  · intro absent
    cases pushed with
    | idle dead unheld => exact ⟨rfl, rfl⟩
    | lost dead held => exact ⟨rfl, rfl⟩
    | taken => cases absent
    | refused => cases absent
  · intro done
    cases pushed with
    | taken engine pool found obeying sound changed => exact ⟨engine, found, changed, ordered, rfl⟩
    | idle => cases done
    | lost => cases done
    | refused => cases done
  · intro fault rejected
    cases pushed with
    | refused engine pool fault found cause changed =>
        cases rejected
        refine ⟨engine, found, changed, rfl, ?_⟩
        cases cause with
        | flag _ failing => exact .inl failing
        | equation equation flaw obeying culprit => exact .inr ⟨obeying, equation, flaw, culprit, rfl⟩
    | idle => cases rejected
    | lost => cases rejected
    | taken => cases rejected

def spoiledGraph : Graph :=
  (((Graph.standard.after .toggleAnimate).after (.push "(")).after (.toggleDisabled 1)).after (.push "f(x)=sin(x")

theorem reload_end_to_end_spoiled :
    ∃ current next, (sampleStage [] [.operate .acquire, .operate (.reload .standard)]).play = .ok current ∧
      current.reload spoiledGraph = (.error (.sync ⟨"Error on equation 3\nunclosed `(`"⟩), next) ∧
      (∃ engine, next.engine? = some engine ∧ engine.animate = true ∧ engine.equations = ["f(x)=x"]) ∧
      next.notices = current.notices.push ⟨.error, "Error on equation 3\nunclosed `(`"⟩ ∧
      next.frames = current.frames ∧ next.liveCamera = current.liveCamera := by
  obtain ⟨current, next, playing, reloaded, live, loaded⟩ :
      ∃ current next, (sampleStage [] [.operate .acquire, .operate (.reload .standard)]).play = .ok current ∧
        current.reload spoiledGraph = (.error (.sync ⟨"Error on equation 3\nunclosed `(`"⟩), next) ∧
        current.engineIsLive = true ∧ current.engine?.map Engine.equations = some ["f(x)=x"] :=
    ⟨_, _, rfl, rfl, rfl, rfl⟩
  have built : spoiledGraph.Built := .edited _ _ (.edited _ _ (.edited _ _ (.edited _ _ .standard)))
  obtain ⟨_, _, _, _, _, rejected, ⟨camera, _⟩, holding, _⟩ :=
    reload_end_to_end [] sampleSurface sampleConfig (Session.fresh [] sampleSurface sampleConfig) current next _
      spoiledGraph _ rfl (sample_reachable _ _) playing built reloaded
  obtain ⟨engine, found, changed, told, _⟩ := rejected _ rfl
  rw [found] at loaded
  exact ⟨current, next, playing, reloaded, ⟨_, changed, rfl, Option.some.inj loaded⟩, told,
    (holding (.inl live)).1, camera⟩

theorem reload_stops_lost_loop :
    ∃ current, (sampleStage [] [.operate .acquire, .share, .release 0]).play = .ok current ∧
      (Graph.create "g").Built ∧ (current.reload (.create "g")).1 = .ok false ∧
      current.frames.state = .running ∧ (current.reload (.create "g")).2.frames.state = .stopped :=
  ⟨_, rfl, .create "g", rfl, rfl, rfl⟩

end Plotter
