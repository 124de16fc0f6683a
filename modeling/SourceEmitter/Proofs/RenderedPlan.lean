import SourceEmitter.Proofs.ErrorLatch
import SourceEmitter.Proofs.StoredPlan
import SourceEmitter.Proofs.UnitHistory

/-!
# Rendered plans on any sink

A unit hands over one text, which does not depend on the sink, and a plan hands over the texts of
its units behind their markers. What a sink holds in the end is therefore what it takes of one text,
in however many portions the text arrives. A refusal of the sink is reported by the unit at hand, so
no unit behind it writes anything.
-/

namespace SourceEmitter

namespace Sink

/-- The sink after some more flushes. -/
def flushed (sink : Sink) (count : Nat) : Sink := { sink with flushes := sink.flushes + count }

@[simp] theorem flushed_zero (sink : Sink) : sink.flushed 0 = sink := rfl

@[simp] theorem flushed_flushed (sink : Sink) (first second : Nat) :
    (sink.flushed first).flushed second = sink.flushed (first + second) := by
  simp [flushed, Nat.add_assoc]

/-- Flushing changes nothing about what a sink takes. -/
theorem accept_flushed (sink : Sink) (count : Nat) (data : ByteArray) :
    (sink.flushed count).accept data =
      ((sink.accept data).1.flushed count, (sink.accept data).2) := by
  cases hroom : sink.room with
  | none => simp [accept, flushed, hroom]
  | some room =>
    by_cases hfits : data.size ≤ room <;> simp [accept, flushed, hroom, hfits]

theorem refusesFlush_accept (sink : Sink) (data : ByteArray) :
    (sink.accept data).1.refusesFlush = sink.refusesFlush := by
  unfold accept
  split
  · rfl
  · split <;> rfl

theorem accept_empty (sink : Sink) : sink.accept ByteArray.empty = (sink, none) := by
  unfold accept
  cases sink with
  | mk bytes room refuses flushes => cases room <;> simp

/-- What is taken in two portions is taken as if it came at once. -/
theorem accept_append_of_taken {sink : Sink} {first : ByteArray}
    (h : (sink.accept first).2 = none) (second : ByteArray) :
    sink.accept (first ++ second) = (sink.accept first).1.accept second := by
  cases hroom : sink.room with
  | none => simp [accept, hroom, ByteArray.append_assoc]
  | some room =>
    have hfits : first.size ≤ room := by
      refine Classical.byContradiction fun hover => ?_
      simp [accept, hroom, hover] at h
    have hsize : (first ++ second).size = first.size + second.size := ByteArray.size_append
    by_cases hall : second.size ≤ room - first.size
    · have htotal : first.size + second.size ≤ room := by omega
      simp [accept, hroom, hfits, hall, htotal, ByteArray.append_assoc, Nat.sub_sub]
    · have htotal : ¬first.size + second.size ≤ room := by omega
      simp [accept, hroom, hfits, hall, htotal, ByteArray.append_assoc,
        Outlet.extract_append_of_size_le hfits]

/-- Behind a portion that was cut nothing more is taken. -/
theorem accept_append_of_cut {sink : Sink} {first : ByteArray} {fault : SinkFault}
    (h : (sink.accept first).2 = some fault) (second : ByteArray) :
    sink.accept (first ++ second) = sink.accept first := by
  cases hroom : sink.room with
  | none => simp [accept, hroom] at h
  | some room =>
    have hover : ¬first.size ≤ room := by
      intro hfits
      simp [accept, hroom, hfits] at h
    have htotal : ¬first.size + second.size ≤ room := by omega
    simp [accept, hroom, hover, htotal, Outlet.extract_append_of_le (Nat.le_of_not_le hover)]

end Sink

namespace Outlet

/-- The outlet of a sink that has been handed some bytes. -/
def handed (sink : Sink) (data : ByteArray) : Outlet :=
  ⟨(sink.accept data).1, (sink.accept data).2⟩

theorem handed_put (sink : Sink) (data : ByteArray) (text : String) :
    (handed sink data).put text = handed sink (data ++ text.toByteArray) := by
  unfold put
  cases hfault : (sink.accept data).2 with
  | some fault =>
    simp [handed, hfault, Sink.accept_append_of_cut hfault]
  | none =>
    split
    next hempty =>
      have htext : text = "" := by simpa [handed, hfault] using hempty
      rw [htext, String.toByteArray_empty, ByteArray.append_empty]
    next => simp [handed, Sink.accept_append_of_taken hfault]

/-- Texts that are set out one by one are handed over as one. -/
theorem handed_putAll (sink : Sink) (data : ByteArray) (texts : List String) :
    (handed sink data).putAll texts =
      handed sink (data ++ (String.join texts).toByteArray) := by
  induction texts generalizing data with
  | nil => simp [String.join]
  | cons text rest ih =>
    rw [putAll_cons, handed_put, ih, String.join_cons, String.toByteArray_append,
      ByteArray.append_assoc]

theorem putAll_open (sink : Sink) (texts : List String) :
    putAll ⟨sink, none⟩ texts = handed sink (String.join texts).toByteArray := by
  have hopen : (⟨sink, none⟩ : Outlet) = handed sink ByteArray.empty := by
    rw [handed, Sink.accept_empty]
  rw [hopen, handed_putAll, ByteArray.empty_append]

end Outlet

theorem Op.allOf_append (p : Action → Bool) (first second : List Op) :
    Op.allOf p (first ++ second) = (Op.allOf p first && Op.allOf p second) := by
  induction first with
  | nil => rfl
  | cons op rest ih => rw [List.cons_append, Op.allOf, Op.allOf, ih, Bool.and_assoc]

theorem JavaOp.leavesOutlet_flatMap {history : List JavaOp}
    (h : history.all (JavaOp.all Action.leavesOutlet) = true) :
    Op.allOf Action.leavesOutlet (history.flatMap JavaOp.ops) = true := by
  induction history with
  | nil => rfl
  | cons op rest ih =>
    obtain ⟨hop, hrest⟩ := Bool.and_eq_true_iff.1 h
    rw [List.flatMap_cons, Op.allOf_append, op.leavesOutlet_ops hop, ih hrest]
    rfl

/-- A history sets out one text, whatever sink it is for, and leaves one state behind. -/
theorem JavaOp.exists_text (style : Style) {history : List JavaOp}
    (h : history.all (JavaOp.all Action.leavesOutlet) = true) :
    ∃ state text, ∀ sink, (JavaOp.applyAll (.start sink style) history).state = state ∧
      (JavaOp.applyAll (.start sink style) history).outlet =
        .handed sink (String.toByteArray text) := by
  let moves := Op.movesAll .fresh (history.flatMap JavaOp.ops)
  have hmoves : ∀ move ∈ moves, move.leavesOutlet = true :=
    Op.leavesOutlet_movesAll _ _ (JavaOp.leavesOutlet_flatMap h)
  have hrun : ∀ sink, JavaOp.applyAll (.start sink style) history =
      Move.applyAll (.start sink style) moves := by
    intro sink
    rw [JavaOp.applyAll_eq_ops]
    exact (Op.applyAll_movesAll (.start sink style) _).symm
  refine ⟨Move.nextAll (Writer.start .unlimited style).state moves,
    String.join (Move.textsAll (Writer.start .unlimited style).state moves), fun sink => ?_⟩
  rw [hrun, Move.state_applyAll, Move.outlet_applyAll _ _ hmoves]
  exact ⟨rfl, Outlet.putAll_open sink _⟩

/-- Whether an error reports the refusal of a sink. -/
def PlanError.Reports (error : PlanError) (fault : SinkFault) : Prop :=
  error = .io (.sink fault) ∨ error = .output (.io (.sink fault))

/-- A rendering that hands some bytes over to a sink: the sink has taken what fits, and the verdict
is the refusal of the sink if that is not all. -/
structure Delivers (sink : Sink) (data : ByteArray) (verdict : Except PlanError Unit)
    (result : Rendering) : Prop where
  taken : ∃ count, result.1 = (sink.accept data).1.flushed count
  whole : (sink.accept data).2 = none → result.2 = verdict
  cut : ∀ fault, (sink.accept data).2 = some fault →
    ∃ error, result.2 = .error error ∧ error.Reports fault

namespace Delivers

variable {sink : Sink} {first second : ByteArray} {verdict : Except PlanError Unit}
  {result : Rendering}

theorem of_taken (h : (sink.accept first).2 = none) (count : Nat) :
    Delivers sink first verdict ((sink.accept first).1.flushed count, verdict) where
  taken := ⟨count, rfl⟩
  whole := fun _ => rfl
  cut := fun _ hfault => nomatch h.symm.trans hfault

theorem of_cut {fault : SinkFault} (h : (sink.accept first).2 = some fault) {error : PlanError}
    (herror : error.Reports fault) :
    Delivers sink first verdict ((sink.accept first).1, .error error) where
  taken := ⟨0, rfl⟩
  whole := fun hnone => nomatch hnone.symm.trans h
  cut := fun _ hfault => ⟨error, rfl, Option.some.inj (h.symm.trans hfault) ▸ herror⟩

theorem nothing (sink : Sink) (count : Nat) (verdict : Except PlanError Unit) :
    Delivers sink ByteArray.empty verdict (sink.flushed count, verdict) := by
  have htaken : (sink.accept ByteArray.empty).2 = none := congrArg Prod.snd sink.accept_empty
  have h : Delivers sink ByteArray.empty verdict _ := of_taken htaken count
  rwa [sink.accept_empty] at h

/-- Behind bytes that the sink has taken, more of them are delivered. -/
theorem append (count : Nat) (htaken : (sink.accept first).2 = none)
    (h : Delivers ((sink.accept first).1.flushed count) second verdict result) :
    Delivers sink (first ++ second) verdict result := by
  have hall : ((sink.accept first).1.flushed count).accept second =
      ((sink.accept (first ++ second)).1.flushed count, (sink.accept (first ++ second)).2) := by
    rw [Sink.accept_flushed, Sink.accept_append_of_taken htaken]
  obtain ⟨more, hmore⟩ := h.taken
  rw [hall, Sink.flushed_flushed] at hmore
  refine ⟨⟨count + more, hmore⟩, ?_, ?_⟩
  · exact fun hnone => h.whole (by rw [hall]; exact hnone)
  · exact fun fault hfault => h.cut fault (by rw [hall]; exact hfault)

/-- Behind bytes that the sink has cut, no others matter. -/
theorem append_of_cut {fault : SinkFault} (hcut : (sink.accept first).2 = some fault)
    (h : Delivers sink first (.ok ()) result) (second : ByteArray)
    (verdict : Except PlanError Unit) : Delivers sink (first ++ second) verdict result := by
  have hall := Sink.accept_append_of_cut hcut second
  refine ⟨by rw [hall]; exact h.taken, ?_, by rw [hall]; exact h.cut⟩
  intro hnone
  rw [hall, hcut] at hnone
  cases hnone

/-- A sink that never fails takes everything. -/
theorem unlimited (h : Delivers .unlimited first verdict result) :
    result.1.bytes = first ∧ result.2 = verdict := by
  have haccept := Sink.accept_unlimited .unlimited first rfl
  obtain ⟨count, hcount⟩ := h.taken
  refine ⟨?_, h.whole (by rw [haccept])⟩
  rw [hcount, haccept]
  exact ByteArray.empty_append

/-- A sink takes what fits. -/
theorem limited {room : Nat} {refuses : Bool}
    (h : Delivers (.limited (some room) refuses) first verdict result) :
    (first.size ≤ room → result.1.bytes = first ∧ result.2 = verdict) ∧
    (room < first.size → result.1.bytes = first.extract 0 room ∧
      ∃ error, result.2 = .error error ∧ error.Reports .closed) := by
  obtain ⟨count, hcount⟩ := h.taken
  constructor
  · intro hfits
    have haccept : (Sink.limited (some room) refuses).accept first =
        (⟨first, some (room - first.size), refuses, 0⟩, none) := by
      simp [Sink.limited, Sink.accept, hfits]
    exact ⟨by rw [hcount, haccept]; rfl, h.whole (by rw [haccept])⟩
  · intro hover
    have haccept : (Sink.limited (some room) refuses).accept first =
        (⟨first.extract 0 room, some 0, refuses, 0⟩, some .closed) := by
      simp [Sink.limited, Sink.accept, Nat.not_le.2 hover]
    exact ⟨by rw [hcount, haccept]; rfl, h.cut .closed (by rw [haccept])⟩

end Delivers

/-- A closed outlet has delivered what it was handed. -/
theorem Outlet.close_handed {sink : Sink} (hsink : sink.refusesFlush = false) (data : ByteArray) :
    ((sink.accept data).2 = none →
      (handed sink data).close = ((sink.accept data).1.flushed 1, .ok ())) ∧
    (∀ fault, (sink.accept data).2 = some fault →
      (handed sink data).close = ((sink.accept data).1, .error (.io (.sink fault)))) := by
  constructor
  · intro hnone
    rw [handed, hnone]
    exact close_open ((sink.refusesFlush_accept data).trans hsink)
  · intro fault hfault
    simp [handed, close, hfault]

theorem Writer.toRendering_handed {w : Writer} {sink : Sink} {data : ByteArray}
    (hsink : sink.refusesFlush = false) (houtlet : w.outlet = .handed sink data)
    (hpending : w.pending.fragments = []) : Delivers sink data (.ok ()) w.toRendering := by
  have hfinish : w.finish = (Outlet.handed sink data).close := by
    rw [finish_eq, houtlet, hpending, Outlet.putAll_nil]
  obtain ⟨htaken, hcut⟩ := Outlet.close_handed hsink data
  cases hfault : (sink.accept data).2 with
  | none =>
    have hrendering : w.toRendering = ((sink.accept data).1.flushed 1, .ok ()) := by
      rw [toRendering, hfinish, htaken hfault]
    rw [hrendering]
    exact .of_taken hfault 1
  | some fault =>
    have hrendering : w.toRendering =
        ((sink.accept data).1, .error (.output (.io (.sink fault)))) := by
      rw [toRendering, hfinish, hcut fault hfault]
    rw [hrendering]
    exact .of_cut hfault (.inr rfl)

/-- A class with a name delivers the same bytes to every sink that can be flushed. -/
theorem ClassFile.render_delivers (unit : UnitPlan) (vars : Variables) (style : Style)
    (hname : (DottedName.split unit.fullName).2.isEmpty = false) :
    ∃ data, ∀ sink : Sink, sink.refusesFlush = false →
      Delivers sink data (.ok ()) (render unit vars style sink) := by
  obtain ⟨state, text, hrun⟩ := JavaOp.exists_text style (leavesOutlet_history unit vars
    (DottedName.split unit.fullName).1 (DottedName.split unit.fullName).2)
  simp only [Writer.applyAll_classHistory] at hrun
  have hpending : state.pending.fragments = [] := by
    have hroom : Sink.unlimited.room = none := rfl
    obtain ⟨used, runs, hfile⟩ := Writer.classFile_start hroom style unit vars
      (DottedName.split unit.fullName).1 (DottedName.split unit.fullName).2
    rw [← (hrun .unlimited).1, hfile]
    rfl
  refine ⟨text.toByteArray, fun sink hsink => ?_⟩
  obtain ⟨hstate, houtlet⟩ := hrun sink
  rw [render_of_named hname]
  dsimp only
  generalize (Writer.start sink style).classFile unit vars (DottedName.split unit.fullName).1
    (DottedName.split unit.fullName).2 = w at hstate houtlet
  have hfailure : w.failure = (sink.accept text.toByteArray).2 := congrArg Outlet.failure houtlet
  cases hfault : (sink.accept text.toByteArray).2 with
  | none =>
    rw [hfailure, hfault]
    exact Writer.toRendering_handed hsink houtlet
      ((congrArg (·.pending.fragments) hstate).trans hpending)
  | some fault =>
    have hsinks : w.sink = (sink.accept text.toByteArray).1 := congrArg Outlet.sink houtlet
    rw [hfailure, hfault, hsinks]
    exact .of_cut hfault (.inl rfl)

/-- A resource delivers the same bytes to every sink that can be flushed. -/
theorem ResourceFile.render_delivers (unit : UnitPlan) (vars : Variables) (style : Style) :
    ∃ data, ∀ sink : Sink, sink.refusesFlush = false →
      Delivers sink data (.ok ()) (render unit vars style sink) := by
  let history : List JavaOp := [.base (.act (.fullLinesWith vars unit.lines))]
  have hleaves : history.all (JavaOp.all Action.leavesOutlet) = true := rfl
  obtain ⟨state, text, hrun⟩ := JavaOp.exists_text style hleaves
  have hpending : state.pending.fragments = [] := by
    rw [← (hrun .unlimited).1]
    change ((Writer.start .unlimited style).fullLinesWith vars
      unit.lines).state.pending.fragments = []
    rw [Writer.start_eq, Writer.fullLinesWith_standing rfl]
    rfl
  refine ⟨text.toByteArray, fun sink hsink => ?_⟩
  obtain ⟨hstate, houtlet⟩ := hrun sink
  rw [render_lines]
  exact Writer.toRendering_handed hsink houtlet
    ((congrArg (·.pending.fragments) hstate).trans hpending)

/-- Whether a unit is a class whose name ends with the dot behind its package, or is empty. -/
def UnitPlan.lacksName (unit : UnitPlan) : Bool :=
  unit.kind == "class" && (DottedName.split unit.fullName).2.isEmpty

namespace KindTable

/-- A unit with a name delivers its rendering. -/
theorem render_delivers {unit : UnitPlan} {kind : UnitKind} (vars : Variables) (style : Style)
    (hfind : standard.find unit.kind = .ok kind) (hname : unit.lacksName = false) {sink : Sink}
    (hsink : sink.refusesFlush = false) :
    Delivers sink (unit.rendering vars style).1.bytes (.ok ())
      (standard.render unit vars style sink) := by
  have hdelivers : ∃ data, ∀ sink : Sink, sink.refusesFlush = false →
      Delivers sink data (.ok ()) (kind.render unit vars style sink) := by
    rcases find_standard hfind with ⟨hkind, rfl⟩ | ⟨_, rfl⟩
    · rw [UnitPlan.lacksName, hkind, beq_self_eq_true, Bool.true_and] at hname
      simp only [classKind]
      exact ClassFile.render_delivers unit vars style hname
    · exact ResourceFile.render_delivers unit vars style
  obtain ⟨data, hdata⟩ := hdelivers
  have hrendering : (unit.rendering vars style).1.bytes = data := by
    rw [UnitPlan.rendering, render, hfind]
    exact (hdata .unlimited rfl).unlimited.1
  rw [hrendering, render, hfind]
  exact hdata sink hsink

/-- A class without a name is refused before anything is written. -/
theorem render_of_lacksName {unit : UnitPlan} (vars : Variables) (style : Style)
    (hname : unit.lacksName = true) (sink : Sink) :
    standard.render unit vars style sink = (sink, .error (.badUnit unit.name .noClassName)) := by
  obtain ⟨hkind, hempty⟩ := Bool.and_eq_true_iff.1 hname
  have hfind : standard.find unit.kind = .ok classKind := by
    rw [find, get?_standard, beq_iff_eq.1 hkind]
    rfl
  rw [render, hfind]
  simp only [classKind, ClassFile.render_of_isEmpty hempty]

/-- What rendering units hands over, and its verdict if the sink takes all of it. It ends behind
the marker of the first class without a name. -/
def transcript (vars : Variables) (style : Style) :
    List UnitPlan → ByteArray × Except PlanError Unit
  | [] => (ByteArray.empty, .ok ())
  | unit :: rest =>
    let behind :=
      if unit.lacksName then (ByteArray.empty, .error (.badUnit unit.name .noClassName))
      else
        ((unit.rendering vars style).1.bytes ++ (transcript vars style rest).1,
          (transcript vars style rest).2)
    ((marker unit).toByteArray ++ behind.1, behind.2)

theorem transcript_of_named {vars : Variables} {style : Style} {units : List UnitPlan}
    (h : ∀ unit ∈ units, unit.lacksName = false) :
    transcript vars style units = (UnitPlan.printed vars style units, .ok ()) := by
  induction units with
  | nil => rfl
  | cons unit rest ih =>
    have hrest := ih fun other hm => h other (List.mem_cons_of_mem unit hm)
    simp [transcript, h unit List.mem_cons_self, hrest, UnitPlan.printed, marker,
      ByteArray.append_assoc]

theorem transcript_of_lacksName {vars : Variables} {style : Style} {before : List UnitPlan}
    {unit : UnitPlan} (hbefore : ∀ other ∈ before, other.lacksName = false)
    (hunit : unit.lacksName = true) (rest : List UnitPlan) :
    transcript vars style (before ++ unit :: rest) =
      (UnitPlan.printed vars style before ++ (marker unit).toByteArray,
        .error (.badUnit unit.name .noClassName)) := by
  induction before with
  | nil => simp [transcript, hunit, UnitPlan.printed]
  | cons first others ih =>
    have hothers := ih fun other hm => hbefore other (List.mem_cons_of_mem first hm)
    simp [transcript, hbefore first List.mem_cons_self, hothers, UnitPlan.printed, marker,
      ByteArray.append_assoc]

/-- Behind a unit that is delivered whole the other units are delivered. -/
theorem render_then_delivers {vars : Variables} {style : Style} {unit : UnitPlan} {kind : UnitKind}
    {rest : List UnitPlan} {sink : Sink} {data : ByteArray} {verdict : Except PlanError Unit}
    (hfind : standard.find unit.kind = .ok kind) (hname : unit.lacksName = false)
    (hsink : sink.refusesFlush = false)
    (hrest : ∀ after : Sink, after.refusesFlush = false →
      Delivers after data verdict (standard.renderUnits vars style after rest)) :
    Delivers sink ((unit.rendering vars style).1.bytes ++ data) verdict
      (match standard.render unit vars style sink with
        | (sink, .ok ()) => standard.renderUnits vars style sink rest
        | (sink, .error error) => (sink, .error error)) := by
  have hunit := render_delivers vars style hfind hname hsink
  rcases hrender : standard.render unit vars style sink with ⟨after, outcome⟩
  rw [hrender] at hunit
  cases hfault : (sink.accept (unit.rendering vars style).1.bytes).2 with
  | some fault =>
    obtain ⟨error, herror, _⟩ := hunit.cut fault hfault
    cases herror
    exact .append_of_cut hfault hunit data verdict
  | none =>
    obtain ⟨count, hcount⟩ := hunit.taken
    have hok := hunit.whole hfault
    cases hok
    cases hcount
    exact .append count hfault (hrest _ ((sink.refusesFlush_accept _).trans hsink))

/-- Rendering units of known kinds delivers their transcript. -/
theorem renderUnits_delivers (vars : Variables) (style : Style) {units : List UnitPlan}
    (hknown : standard.firstUnknown units = none) {sink : Sink}
    (hsink : sink.refusesFlush = false) :
    Delivers sink (transcript vars style units).1 (transcript vars style units).2
      (standard.renderUnits vars style sink units) := by
  induction units generalizing sink with
  | nil =>
    have hdone : standard.renderUnits vars style sink [] = (sink.flushed 1, .ok ()) := by
      simp [renderUnits, Sink.flush, Sink.flushed, hsink]
    rw [hdone]
    exact .nothing sink 1 (.ok ())
  | cons unit rest ih =>
    rw [transcript]
    rcases hmarker : sink.accept (marker unit).toByteArray with ⟨marked, _ | fault⟩
    case some =>
      have hcut : (sink.accept (marker unit).toByteArray).2 = some fault := by rw [hmarker]
      refine .append_of_cut hcut ?_ _ _
      simpa only [renderUnits, hmarker] using Delivers.of_cut hcut (.inl rfl)
    have htaken : (sink.accept (marker unit).toByteArray).2 = none := by rw [hmarker]
    have hmarked : marked.refusesFlush = false := by
      rw [← hsink, ← sink.refusesFlush_accept (marker unit).toByteArray, hmarker]
    refine .append 0 htaken ?_
    rw [hmarker, Sink.flushed_zero]
    simp only [renderUnits, hmarker]
    cases hname : unit.lacksName with
    | true =>
      rw [render_of_lacksName vars style hname]
      exact .nothing marked 0 (.error (.badUnit unit.name .noClassName))
    | false =>
      obtain ⟨kind, hfind⟩ := find_of_firstUnknown hknown List.mem_cons_self
      have hrest := firstUnknown_of_subset (List.subset_cons_self unit rest) hknown
      exact render_then_delivers hfind hname hmarked fun after hafter => ih hrest hafter

end KindTable

/-- A plan whose layout is refused, and otherwise a plan with a unit of an unknown kind, is refused
before a byte is written. Any other plan hands over one text: on a sink without limit the text is
every unit's rendering behind its marker, or up to and with the marker of the first class without a
name, which is the error. A sink with room for some bytes holds the start of that text that fits. If
it all fits the verdict is the same, and otherwise the verdict is the refusal of the sink. -/
theorem rendered_plan_delivers (plan : Plan) (room : Nat) :
    (∀ fault sink, plan.layout.check = .error fault →
      KindTable.standard.renderAll plan sink = (sink, .error (.output (.badSettings fault)))) ∧
    (∀ unit sink, plan.layout.check = .ok () →
      KindTable.standard.firstUnknown plan.units = some unit →
      KindTable.standard.renderAll plan sink = (sink, .error (.noSuchKind unit.kind))) ∧
    (plan.layout.check = .ok () → KindTable.standard.firstUnknown plan.units = none →
      let printed := UnitPlan.printed plan.vars plan.layout.style
      let whole := KindTable.standard.renderAll plan .unlimited
      let limited := KindTable.standard.renderAll plan (.limited (some room) false)
      ((∀ unit ∈ plan.units, unit.lacksName = false) →
        whole.1.bytes = printed plan.units ∧ whole.2 = .ok ()) ∧
      (∀ before unit rest, plan.units = before ++ unit :: rest →
        (∀ other ∈ before, other.lacksName = false) → unit.lacksName = true →
        whole.1.bytes = printed before ++
            ("// ---- " ++ unit.name ++ " (" ++ unit.kind ++ ")\n").toByteArray ∧
          whole.2 = .error (.badUnit unit.name .noClassName)) ∧
      (whole.1.bytes.size ≤ room → limited.1.bytes = whole.1.bytes ∧ limited.2 = whole.2) ∧
      (room < whole.1.bytes.size → limited.1.bytes = whole.1.bytes.extract 0 room ∧
        ∃ error, limited.2 = .error error ∧ error.Reports .closed)) := by
  refine ⟨?_, ?_, ?_⟩
  · intro fault sink hcheck
    rw [KindTable.renderAll, hcheck]
  · intro unit sink hcheck hunknown
    exact KindTable.renderAll_of_unknown hcheck hunknown sink
  · intro hcheck hknown printed whole limited
    have hdelivers : ∀ sink : Sink, sink.refusesFlush = false → Delivers sink
        (KindTable.transcript plan.vars plan.layout.style plan.units).1
        (KindTable.transcript plan.vars plan.layout.style plan.units).2
        (KindTable.standard.renderAll plan sink) := by
      intro sink hsink
      rw [KindTable.renderAll_of_known hcheck hknown]
      exact KindTable.renderUnits_delivers plan.vars plan.layout.style hknown hsink
    obtain ⟨hbytes, hverdict⟩ := (hdelivers .unlimited rfl).unlimited
    have hlimited := (hdelivers (.limited (some room) false) rfl).limited
    refine ⟨?_, ?_, ?_⟩
    · intro hnamed
      rw [KindTable.transcript_of_named hnamed] at hbytes hverdict
      exact ⟨hbytes, hverdict⟩
    · intro before unit rest hunits hbefore hunit
      rw [hunits, KindTable.transcript_of_lacksName hbefore hunit rest] at hbytes hverdict
      exact ⟨hbytes, hverdict⟩
    · rw [← hbytes, ← hverdict] at hlimited
      exact hlimited

/-- A class and a resource, on a sink with room for more than their text; behind them a class whose
name ends with the dot of its package, on a sink that fills up inside the second marker; and a
refused layout and an unknown kind. -/
theorem rendered_plan_delivers_start :
    let source : UnitPlan := { kind := "class", name := "B" }
    let resource : UnitPlan := { kind := "resource", name := "n", lines := ["x"] }
    let nameless : UnitPlan := { kind := "class", name := "", package := some "a" }
    let unknown : UnitPlan := { kind := "enum", name := "C" }
    let plan (units : List UnitPlan) : Plan := { units }
    let refused : Plan := { layout := { sourceDir := ⟨""⟩ } }
    let render := KindTable.standard.renderAll
    let text := "// ---- B (class)\npublic class B \x7b\n\x7d\n// ---- n (resource)\nx\n"
    (render refused .unlimited).2 = .error (.output (.badSettings .emptySourceDir)) ∧
      (render (plan [source, unknown]) .unlimited).2 = .error (.noSuchKind "enum") ∧
      (render (plan [source, resource]) (.limited (some 80) false)).1.bytes = text.toByteArray ∧
      (render (plan [source, resource]) (.limited (some 80) false)).2 = .ok () ∧
      (render (plan [source, resource, nameless, source]) .unlimited).1.bytes =
        (text ++ "// ----  (class)\n").toByteArray ∧
      (render (plan [source, resource, nameless, source]) .unlimited).2 =
        .error (.badUnit "" .noClassName) ∧
      (render (plan [source, resource, nameless, source]) (.limited (some 50) false)).1.bytes =
        "// ---- B (class)\npublic class B \x7b\n\x7d\n// ---- n (re".toByteArray ∧
      ∃ error, (render (plan [source, resource, nameless, source])
        (.limited (some 50) false)).2 = .error error ∧ error.Reports .closed := by
  intro source resource nameless unknown plan refused render text
  have hbad := (rendered_plan_delivers refused 50).1 .emptySourceDir .unlimited (by decide)
  have hunknown := (rendered_plan_delivers (plan [source, unknown]) 50).2.1 unknown
    .unlimited (by decide) (by decide)
  have hprinted : UnitPlan.printed .empty {} [source, resource] = text.toByteArray := by
    decide +kernel
  obtain ⟨hnamed, _, hfits, _⟩ :=
    (rendered_plan_delivers (plan [source, resource]) 80).2.2 (by decide) (by decide)
  obtain ⟨hbytes, hverdict⟩ := hnamed (by decide)
  rw [hprinted] at hbytes
  obtain ⟨hall, hdone⟩ := hfits (by rw [hbytes]; decide +kernel)
  obtain ⟨_, hnameless, _, hcut⟩ :=
    (rendered_plan_delivers (plan [source, resource, nameless, source]) 50).2.2 (by decide)
      (by decide)
  obtain ⟨hmarked, hrefused⟩ :=
    hnameless [source, resource] nameless [source] rfl (by decide) (by decide)
  rw [hprinted] at hmarked
  obtain ⟨hstart, herror⟩ := hcut (by rw [hmarked]; decide +kernel)
  refine ⟨congrArg Prod.snd hbad, congrArg Prod.snd hunknown, hall.trans hbytes,
    hdone.trans hverdict, ?_, hrefused, ?_, herror⟩
  · rw [hmarked, String.toByteArray_append]
    rfl
  · rw [hstart, hmarked]
    decide +kernel

end SourceEmitter
