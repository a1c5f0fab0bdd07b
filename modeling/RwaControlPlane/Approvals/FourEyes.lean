import RwaControlPlane.Callbacks.IncidentReviews
import RwaControlPlane.Catalog.OnboardingReviews
import RwaControlPlane.Gate.ParameterReviews
import RwaControlPlane.Outbox.Replays

open four_eyes rwa.storage

namespace rwa.approvals

/-- Over every run of each workflow, an effect is one that a maker proposed for the
present state of its subject and another actor approved, no proposal is decided twice,
and no rejection has an effect. -/
theorem approvals_take_effect_once {Proof : Type} (platform : Platform) (service : catalog.ProductCatalogService)
    (reference : gate.ReferenceData) :
    (∀ actions, (outbox.queue.replays platform).Governed .empty actions) ∧
    (∀ actions, callbacks.incidentReviews.Governed ⟨[], []⟩ actions) ∧
    (∀ actions, (catalog.onboardingReviews service).Governed catalog.Database.migrated actions) ∧
    (∀ actions, (gate.parameterReviews Proof).Governed (.start (.configured reference)) actions) := by
  refine ⟨fun actions => ?_, fun actions => ?_, fun actions => ?_, fun actions => ?_⟩
  · refine (outbox.queue.replays_lawful platform).governed outbox.queue.replaysSound_empty ?_ actions
    rintro requestId makerRef eventId _ ⟨request, hrequest, -⟩
    cases hrequest
  · refine callbacks.incidentReviews_lawful.governed callbacks.incidentsSound_empty ?_ actions
    rintro key makerRef incidentId effect ⟨-, ⟨row, hrow, -⟩, -⟩
    cases hrow
  · refine (catalog.onboardingReviews_lawful service).governed catalog.onboardingSound_migrated ?_ actions
    rintro key makerRef onboarded effect ⟨-, proposal, hunchecked, -⟩
    cases hunchecked.mem
  · refine gate.parameterReviews_lawful.governed (gate.parametersSound_configured reference) ?_ actions
    rintro proposalId makerRef subject payload ⟨-, row, hrow, -⟩
    cases hrow

end rwa.approvals
