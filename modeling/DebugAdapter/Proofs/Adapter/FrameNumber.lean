import DebugAdapter.Proofs.Adapter.Call
import DebugAdapter.Proofs.Adapter.Sight
import DebugAdapter.Proofs.Arguments.Kind
import Mathlib.Data.Int.ModEq

/-!
# Numbers of stack frames

A frame without a number of its own gets one with the thread in its upper half and the level in its
lower half, each cut to 32 bits.
-/

namespace DebugAdapter

namespace StackFrame

/-- A thread that fits in the upper half of 64 bits, with a sign, and a level that fits in the lower
half. -/
structure InHalves (threadId level : Int64) : Prop where
  thread_ge : -2 ^ 31 ≤ threadId.toInt
  thread_lt : threadId.toInt < 2 ^ 31
  level_ge : 0 ≤ level.toInt
  level_lt : level.toInt < 2 ^ 32

/-! ## Halves of a word -/

/-- The sign does not matter for the lower half of a word. -/
theorem toInt_emod (x : Int64) : x.toInt % 2 ^ 32 = (x.toBitVec.toNat : Int) % 2 ^ 32 := by
  rw [← Int64.toInt_toBitVec, BitVec.toInt_eq_toNat_cond]
  split
  · rfl
  · omega

theorem toNat_mask (x : Int64) :
    (x &&& 0xFFFFFFFF).toBitVec.toNat = x.toBitVec.toNat % 2 ^ 32 := by
  have hmask : (0xFFFFFFFF : Int64).toBitVec.toNat = 2 ^ 32 - 1 := by decide
  rw [Int64.toBitVec_and, BitVec.toNat_and, hmask, Nat.and_two_pow_sub_one_eq_mod]

theorem toInt_mask (x : Int64) : (x &&& 0xFFFFFFFF).toInt = x.toInt % 2 ^ 32 := by
  rw [toInt_emod, ← Int64.toInt_toBitVec, BitVec.toInt_eq_toNat_cond, toNat_mask]
  omega

theorem toNat_shiftLeft (x : Int64) :
    (x <<< 32).toBitVec.toNat = (x.toBitVec.toNat % 2 ^ 32) <<< 32 := by
  have hshift : (32 : Int64).toBitVec.smod 64 = 32 := by decide
  rw [Int64.toBitVec_shiftLeft, hshift, BitVec.shiftLeft_eq', BitVec.toNat_shiftLeft]
  simp only [BitVec.ofNat_eq_ofNat, BitVec.toNat_ofNat, Nat.reducePow, Nat.reduceMod,
    Nat.shiftLeft_eq]
  omega

theorem toInt_shiftRight (x : Int64) : (x >>> 32).toInt = x.toInt / 2 ^ 32 := by
  have hshift : ((32 : Int64).toBitVec.smod 64).toNat = 32 := by decide
  rw [← Int64.toInt_toBitVec, Int64.toBitVec_shiftRight, BitVec.sshiftRight', hshift,
    BitVec.toInt_sshiftRight, Int.shiftRight_eq_div_pow, Int64.toInt_toBitVec]
  rfl

/-! ## The number of a frame -/

theorem toNat_defaultId (threadId level : Int64) :
    (defaultId threadId level).toBitVec.toNat =
      threadId.toBitVec.toNat % 2 ^ 32 * 2 ^ 32 + level.toBitVec.toNat % 2 ^ 32 := by
  -- the bits of the halves do not overlap
  rw [defaultId, Int64.toBitVec_or, BitVec.toNat_or, toNat_mask, toNat_shiftLeft,
    ← Nat.shiftLeft_add_eq_or_of_lt (Nat.mod_lt _ (by decide)), Nat.shiftLeft_eq]

/-- The number of a frame is that of its thread, cut to 32 bits with a sign, before that of its
level, cut to 32 bits without one. -/
theorem toInt_defaultId (threadId level : Int64) :
    (defaultId threadId level).toInt =
      threadId.toInt.bmod (2 ^ 32) * 2 ^ 32 + level.toInt % 2 ^ 32 := by
  have hthread := toInt_emod threadId
  have hlevel := toInt_emod level
  rw [← Int64.toInt_toBitVec, BitVec.toInt_eq_toNat_cond, toNat_defaultId, Int.bmod_def]
  push_cast
  omega

variable {threadId threadId' level level' : Int64}

theorem toInt_shiftRight_defaultId (threadId level : Int64) :
    (defaultId threadId level >>> 32).toInt = threadId.toInt.bmod (2 ^ 32) := by
  rw [toInt_shiftRight, toInt_defaultId]
  omega

theorem toInt_mask_defaultId (threadId level : Int64) :
    (defaultId threadId level &&& 0xFFFFFFFF).toInt = level.toInt % 2 ^ 32 := by
  rw [toInt_mask, toInt_defaultId]
  omega

theorem defaultId_inj :
    defaultId threadId level = defaultId threadId' level' ↔
      threadId.toInt ≡ threadId'.toInt [ZMOD 2 ^ 32] ∧ level.toInt ≡ level'.toInt [ZMOD 2 ^ 32] := by
  constructor
  · intro h
    have hthread := toInt_shiftRight_defaultId threadId level
    have hlevel := toInt_mask_defaultId threadId level
    rw [h, toInt_shiftRight_defaultId] at hthread
    rw [h, toInt_mask_defaultId] at hlevel
    refine ⟨?_, hlevel.symm⟩
    have hcut := congrArg (· % ((2 ^ 32 : Nat) : Int)) hthread
    simp only [Int.bmod_emod] at hcut
    exact hcut.symm
  · rintro ⟨hthread, hlevel⟩
    have hcut : threadId.toInt.bmod (2 ^ 32) = threadId'.toInt.bmod (2 ^ 32) := by
      rw [← Int.emod_bmod, ← Int.emod_bmod (x := threadId'.toInt)]
      exact congrArg (Int.bmod · (2 ^ 32)) hthread
    rw [← Int64.toInt_inj, toInt_defaultId, toInt_defaultId, hcut, hlevel]

theorem InHalves.shiftRight_defaultId (h : InHalves threadId level) :
    defaultId threadId level >>> 32 = threadId := by
  rw [← Int64.toInt_inj, toInt_shiftRight_defaultId]
  have hlow := h.thread_ge
  have hhigh := h.thread_lt
  exact Int.bmod_eq_of_le (by omega) (by omega)

theorem InHalves.mask_defaultId (h : InHalves threadId level) :
    defaultId threadId level &&& 0xFFFFFFFF = level := by
  rw [← Int64.toInt_inj, toInt_mask_defaultId]
  exact Int.emod_eq_of_lt h.level_ge h.level_lt

theorem InHalves.unique (h : InHalves threadId level) (h' : InHalves threadId' level')
    (hsame : defaultId threadId level = defaultId threadId' level') :
    threadId = threadId' ∧ level = level' := by
  have hthread := h.shiftRight_defaultId
  have hlevel := h.mask_defaultId
  rw [hsame] at hthread hlevel
  exact ⟨hthread.symm.trans h'.shiftRight_defaultId, hlevel.symm.trans h'.mask_defaultId⟩

end StackFrame

/-! ## Where expressions are evaluated -/

theorem Arguments.get?_of_absent {value : Json} {name : String}
    (h : value.field? name = none ∨ value.field? name = some .null) : get? ⟨value⟩ name = none := by
  rw [get?]
  rcases h with h | h
  · rw [h]
    rfl
  · rw [h]
    rfl

namespace Command

/-- An expression is evaluated in the frame that the client names, or by default in the current
one. -/
theorem evaluateAction_eq {currentFrame frame : Int64} {args : Arguments}
    (h : (args.get? "frameId").getD (.ofInt64 currentFrame) = .ofInt64 frame) :
    evaluateAction currentFrame args = (do
      let expression ← args.string "expression"
      pure {
        operation := .evaluate frame expression
        body := fun outcome => outcome.map valueBody }) := by
  have hframe : args.int64D "frameId" currentFrame = .ok frame :=
    (Arguments.default_eq_ok Json.isView_asInt64?).2 h
  rw [evaluateAction, hframe]
  rfl

end Command

namespace Adapter

variable {σ : Type}

open StackFrame

/-- The number of a frame is the same for two threads and two levels if and only if these agree in
the 32 bits that are kept of them. A thread and a level that fit are found again in the halves of
the number, so no two of them have the same. With a debugger that numbers its frames like this, an
expression without a frame is evaluated as it is in the topmost frame of the thread that stopped
last, and the debugger is asked for nothing else. -/
theorem frames_numbered_in_halves :
    (∀ threadId threadId' level level' : Int64,
      defaultId threadId level = defaultId threadId' level' ↔
        threadId.toInt ≡ threadId'.toInt [ZMOD 2 ^ 32] ∧
          level.toInt ≡ level'.toInt [ZMOD 2 ^ 32]) ∧
    (∀ threadId level : Int64, InHalves threadId level →
      defaultId threadId level >>> 32 = threadId ∧
        defaultId threadId level &&& 0xFFFFFFFF = level ∧
        ∀ threadId' level' : Int64, InHalves threadId' level' →
          defaultId threadId' level' = defaultId threadId level →
          threadId' = threadId ∧ level' = level) ∧
    ∀ (debugger : Debugger σ) (settings : LaunchSettings) (adapter : Adapter σ)
      (arguments arguments' : Json),
      let frame := defaultId (debugger.lastStopped adapter.debugger) 0
      let dispatched := adapter.dispatch debugger settings "evaluate" arguments
      (∀ state threadId level, debugger.frameId state threadId level = defaultId threadId level) →
      (arguments.field? "frameId" = none ∨ arguments.field? "frameId" = some .null) →
      arguments'.field? "frameId" = some (.ofInt64 frame) →
      arguments'.field? "expression" = arguments.field? "expression" →
      adapter.dispatch debugger settings "evaluate" arguments' = dispatched ∧
        ∀ expression, arguments.field? "expression" = some (.string expression) →
          adapter.Performs debugger (.evaluate frame expression)
            (fun outcome => outcome.map Command.valueBody) dispatched := by
  refine ⟨fun _ _ _ _ => defaultId_inj, fun threadId level hfit => ?_, ?_⟩
  · refine ⟨hfit.shiftRight_defaultId, hfit.mask_defaultId, fun threadId' level' hfit' hsame => ?_⟩
    exact hfit'.unique hfit hsame
  · intro debugger settings adapter arguments arguments' frame dispatched hkept habsent hgiven hsame
    have hcurrent : debugger.currentFrame adapter.debugger = frame := hkept _ _ _
    have habsent' : Arguments.get? ⟨arguments⟩ "frameId" = none := Arguments.get?_of_absent habsent
    have hgiven' : Arguments.get? ⟨arguments'⟩ "frameId" = some (.ofInt64 frame) :=
      Arguments.get?_of_field? hgiven (by simp [Json.ofInt64])
    have hexpression : Arguments.get? ⟨arguments'⟩ "expression" =
        Arguments.get? ⟨arguments⟩ "expression" := by
      rw [Arguments.get?, Arguments.get?, hsame]
    have hdefault : (Arguments.get? ⟨arguments⟩ "frameId").getD (.ofInt64 frame) =
        .ofInt64 frame := by
      rw [habsent', Option.getD_none]
    have hnamed : (Arguments.get? ⟨arguments'⟩ "frameId").getD (.ofInt64 frame) =
        .ofInt64 frame := by
      rw [hgiven', Option.getD_some]
    have hread : Arguments.string ⟨arguments'⟩ "expression" =
        Arguments.string ⟨arguments⟩ "expression" :=
      Arguments.required_congr hexpression .string Json.asString?
    have haction : Command.evaluateAction frame ⟨arguments'⟩ =
        Command.evaluateAction frame ⟨arguments⟩ := by
      rw [Command.evaluateAction_eq hdefault, Command.evaluateAction_eq hnamed, hread]
    refine ⟨dispatch_congr .evaluate ?_, fun expression hstring => ?_⟩
    · rw [hcurrent]
      exact haction
    · have hstring' : Arguments.string ⟨arguments⟩ "expression" = .ok expression :=
        (Arguments.required_eq_ok Json.isView_asString?).2
          (Arguments.get?_of_field? hstring (by simp))
      have haction : Command.evaluate.action settings (debugger.currentFrame adapter.debugger)
          ⟨arguments⟩ = .ok {
            operation := .evaluate frame expression
            body := fun outcome => outcome.map Command.valueBody } := by
        rw [hcurrent, Command.action, Command.evaluateAction_eq hdefault, hstring']
        rfl
      exact performs_dispatch .evaluate haction

/-- Numbers that are the same, one at the edge, and an expression in the frame of a thread with a
sign. -/
theorem frames_numbered_in_halves_signed :
    let adapter : Adapter Unit := { channel := {}, debugger := () }
    let debugger : Debugger Unit := { Debugger.unable .notImplemented with lastStopped _ := -7 }
    let expression : String × Json := ("expression", .string "x")
    let arguments : Json := .object [expression, ("frameId", .null)]
    let arguments' : Json := .object [expression, ("frameId", .int (-0x700000000))]
    defaultId (-1) (-0x80000000) = defaultId 0xFFFFFFFF 0x80000000 ∧
      InHalves (-0x80000000) 0xFFFFFFFF ∧
      defaultId (-0x80000000) 0xFFFFFFFF >>> 32 = -0x80000000 ∧
      adapter.dispatch debugger {} "evaluate" arguments' =
        adapter.dispatch debugger {} "evaluate" arguments ∧
      adapter.Performs debugger (.evaluate (defaultId (-7) 0) "x")
        (fun outcome => outcome.map Command.valueBody)
        (adapter.dispatch debugger {} "evaluate" arguments) := by
  intro adapter debugger expression arguments arguments'
  obtain ⟨hsame, hfit, hevaluate⟩ := frames_numbered_in_halves (σ := Unit)
  have hedge : InHalves (-0x80000000) 0xFFFFFFFF :=
    ⟨by decide, by decide, by decide, by decide⟩
  obtain ⟨hdispatch, hperforms⟩ := hevaluate debugger {} adapter arguments arguments'
    (fun _ _ _ => rfl) (.inr rfl) (by decide) rfl
  exact ⟨(hsame _ _ _ _).2 (by decide), hedge, (hfit _ _ hedge).1, hdispatch, hperforms "x" rfl⟩

end Adapter

end DebugAdapter
