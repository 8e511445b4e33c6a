import Gleaner.Proofs.Bindings.Demands
import Gleaner.Proofs.Bindings.Trimmed
import Gleaner.Proofs.Store.Text

/-!
# A record is judged as it is written

A record is reported on as it stands when a run takes it from the store, and as raw fields when
its file is checked, which coerces them first. Coercing trims and drops, but no demand and no
recommendation sees blanks around a text or a text that says nothing, so the two reports are the
same.
-/

set_option autoImplicit false

namespace Gleaner.PageBindings

/-- The verdicts on a record do not depend on blanks around its texts. -/
theorem report_trimmed (b : PageBindings) : b.trimmed.report = b.report := by
  have details : b.trimmed.showsDetails = b.showsDetails := by
    simp [showsDetails, trimmed, Function.comp_def, Text.isBlankText_strip]
  have named (selector : Option String) : isNamed (selector.map Text.strip) = isNamed selector := by
    simp [isNamed, Option.any_map, Text.isBlankText_strip]
  have demands : BindingReport.demands b.trimmed.toFields = BindingReport.demands b.toFields := by
    rw [demands_toFields, demands_toFields, details]
    simp only [trimmed, Text.isBlankText_strip, named]
    rfl
  have recommendations : BindingReport.recommendations b.trimmed.toFields =
      BindingReport.recommendations b.toFields := by
    rw [recommendations_toFields, recommendations_toFields]
    rfl
  simp only [report, BindingReport.ofFields, demands, recommendations]

/-- The fields that a record is written as are reported on as the record is, and so is the record
that is loaded from them and the text that the record is written as. -/
theorem report_written (b : PageBindings) :
    reportOnRaw b.toFields = b.report ∧
      (∀ now, ∃ loaded, ofJson now b.toJson = .ok loaded ∧
        loaded.report = reportOnRaw b.toFields) ∧
      (b.Distinct → ∀ step, ∃ fields, Json.read (b.toJson.writeIndented step) = .ok (.obj fields) ∧
        reportOnRaw fields = b.report) := by
  have same : reportOnRaw b.toFields = b.report := by
    calc reportOnRaw b.toFields = .ofFields b.trimmed.toFields := by
          rw [reportOnRaw, fields_toFields]
      _ = b.trimmed.report := rfl
      _ = b.report := b.report_trimmed
  refine ⟨same, fun now => ⟨b, b.ofJson_toJson now, same.symm⟩, fun distinct step => ?_⟩
  have keyed : Json.Keyed b.toJson := keyed_toJson distinct
  have read : Json.read (b.toJson.writeIndented step) = .ok b.toJson :=
    Json.read_writeIndented step keyed
  exact ⟨b.toFields, read, same⟩

/-- A record with nothing but blanks where selectors are demanded, and blanks around others. -/
def sparse : PageBindings :=
  { updatedAt := 0
    list := " #list "
    listItem := " "
    detailsContent := ["", " .panel "]
    elements := [("sort", " .sort "), ("about", " ")]
    states := { listLoaded := some (.allOf [.present " ", .anyOf []]) }
    scrollBehavior := some .paginated
    nextPageButton := some " " }

theorem report_written_sparse :
    sparse.Distinct ∧
      sparse.report.errors =
        ["LIST_ITEM selector is required", "ITEM_ID extractor is required",
          "DETAILS_LOADED condition is required",
          "NEXT_PAGE_BUTTON required when SCROLL_BEHAVIOR is paginated"] ∧
      ∃ fields, Json.read (sparse.toJson.writeIndented 2) = .ok (.obj fields) ∧
        reportOnRaw fields = sparse.report := by
  have distinct : sparse.Distinct := ⟨by decide, by decide⟩
  obtain ⟨-, -, read⟩ := report_written sparse
  refine ⟨distinct, ?_, read distinct 2⟩
  decide +kernel

end Gleaner.PageBindings
