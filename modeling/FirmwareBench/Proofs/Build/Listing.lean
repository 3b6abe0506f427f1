import FirmwareBench.Build.Listing
import FirmwareBench.Proofs.Text.Json
import Mathlib.Data.List.Basic

/-!
# The listing of an environment is lossless

The listing does not name the kinds of the values, but a text, a list of items and a number are
different kinds of document. So the document determines the environment, and the printed document
determines the document.

## Main statements

* `Value.toJson_injective`: values of different kinds never have the same document.
* `Env.toJson_injective`: nor do different environments.
* `Env.listing_determines`: the environment can be recovered from its listing.
-/

set_option autoImplicit false

namespace FirmwareBench

theorem Json.strings_injective : Function.Injective Json.strings := by
  intro first second h
  exact List.map_injective_iff.mpr (fun _ _ => Json.string.inj) (Json.array.inj h)

/-- The kind of a value is the kind of its document. -/
theorem Value.toJson_injective : Function.Injective Value.toJson := by
  intro first second h
  cases first with
  | text t =>
      cases second with
      | text t' => rw [Json.string.inj h]
      | items list' => cases h
      | number n' => cases h
  | items list =>
      cases second with
      | text t' => cases h
      | items list' => rw [Json.strings_injective h]
      | number n' => cases h
  | number n =>
      cases second with
      | text t' => cases h
      | items list' => cases h
      | number n' => rw [Json.number.inj h]

theorem Action.word_injective : Function.Injective Action.word := by
  intro first second h
  cases first <;> cases second <;> first | rfl | exact absurd h (by decide)

/-- A dictionary is determined by its entries. -/
theorem Dict.toList_injective {β : Type} : Function.Injective (Dict.toList (β := β)) := by
  rintro ⟨entries, hsorted⟩ ⟨entries', hsorted'⟩ h
  obtain rfl : entries = entries' := h
  rfl

/-- A dictionary whose values have documents of their own is determined by the documents. -/
theorem Dict.toList_map_injective {β : Type} {document : β → Json}
    (h : Function.Injective document) :
    Function.Injective fun d : Dict β => d.toList.map fun e => (e.1, document e.2) := by
  have hentry : Function.Injective fun e : String × β => (e.1, document e.2) := by
    rintro ⟨key, value⟩ ⟨key', value'⟩ heq
    obtain ⟨hkey, hvalue⟩ := Prod.mk.inj heq
    exact Prod.ext hkey (h hvalue)
  exact (List.map_injective_iff.mpr hentry).comp Dict.toList_injective

namespace Env

/-- The document of an environment determines its variables and its suffix rules. -/
theorem toJson_injective : Function.Injective Env.toJson := by
  rintro ⟨vars, suffixes⟩ ⟨vars', suffixes'⟩ h
  obtain ⟨hvars, hsuffixes⟩ : _ ∧ _ := by
    simpa only [toJson, Json.object.injEq, List.cons.injEq, Prod.mk.injEq, true_and, and_true]
      using h
  have hword : Function.Injective fun action : Action => Json.string action.word :=
    fun _ _ heq => Action.word_injective (Json.string.inj heq)
  obtain rfl : vars = vars' := Dict.toList_map_injective Value.toJson_injective hvars
  obtain rfl : suffixes = suffixes' := Dict.toList_map_injective hword hsuffixes
  rfl

/-- **The listing is lossless.** Environments with the same listing are equal; so there is a reader
that finds the environment behind each listing, and nothing behind any other text. -/
theorem listing_determines :
    (∀ first second : Env, first.listing = second.listing → first = second) ∧
      ∃ recover : String → Option Env, ∀ text env,
        recover text = some env ↔ env.listing = text := by
  have hinjective : Function.Injective listing := Json.pretty_injective.comp toJson_injective
  refine ⟨fun first second h => hinjective h, Function.partialInv listing, fun text env => ?_⟩
  exact hinjective.isPartialInv env text

/-- The order in which variables were written does not show, neither in the listing nor in the
environment; and what looks like a number but is a text does. -/
theorem listing_determines_reordered :
    let first := (empty.set "B" (.number 1)).set "A" (.text "1")
    let second := (empty.set "A" (.text "1")).set "B" (.number 1)
    let other := (empty.set "A" (.text "1")).set "B" (.text "1")
    (first.listing = second.listing ∧ first = second) ∧ first.listing ≠ other.listing := by
  intro first second other
  have hlisting : first.listing = second.listing := by rfl
  have hother : first ≠ other := by decide
  exact ⟨⟨hlisting, listing_determines.1 first second hlisting⟩,
    fun h => hother (listing_determines.1 first other h)⟩

end Env

end FirmwareBench
