import PulsarNetstack.RouteDevices

namespace PulsarNetstack

section Egress

variable {start r : Routing} {c : NetConfig} {dst src iif : Word} {out found : RouteResult}

theorem Published.indexed (h : Published start c) (hindexed : c.routesIndexed = true) : c.routeIndex = buildRouteIndex c.routes := by
  obtain ⟨c₁, hprepared⟩ := h.prepared
  obtain ⟨-, hcases⟩ := netConfigPrepare_eq_ok hprepared
  rcases hcases with ⟨-, rfl⟩ | ⟨-, rfl⟩
  · cases hindexed
  · rfl

end Egress

end PulsarNetstack
