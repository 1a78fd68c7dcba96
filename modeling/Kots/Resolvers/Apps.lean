import Kots.Effect.Prog

namespace Kots.Resolvers

open Kots.Effect

structure Watch where
  id : String
  deriving DecidableEq, Repr

structure Cluster where
  id : String
  deriving DecidableEq, Repr

structure HelmChart where
  id : String
  deriving DecidableEq, Repr

structure KotsApp where
  id : String
  deriving DecidableEq, Repr

inductive Call where
  | listWatches (userId : String)
  | listClusters (userId : String)
  | listHelmChartsInCluster (clusterId : String)
  deriving DecidableEq, Repr

/-- An awaited query resolves to its rows or rejects. -/
@[reducible] def Call.Response : Call → Type
  | .listWatches _ => Except String (List Watch)
  | .listClusters _ => Except String (List Cluster)
  | .listHelmChartsInCluster _ => Except String (List HelmChart)

abbrev Resolver (α : Type) := ExceptT String (Prog Call Call.Response) α

/-- `for (const cluster of clusters) { ... helmCharts = helmCharts.concat(clusterCharts); }`, from the
    charts gathered so far. -/
def concatCharts (helmCharts : List HelmChart) : List Cluster → Resolver (List HelmChart)
  | [] => pure helmCharts
  | cluster :: clusters => do
    let clusterCharts ← ExceptT.mk (Prog.invoke (.listHelmChartsInCluster cluster.id))
    concatCharts (helmCharts ++ clusterCharts) clusters

/-- The `pendingUnforks` field of `listApps`; `toSchema` is `HelmChart.toSchema`. -/
def pendingUnforks {σ : Type} (toSchema : HelmChart → σ) (userId : String) : Resolver (List σ) := do
  let clusters ← ExceptT.mk (Prog.invoke (.listClusters userId))
  let helmCharts ← concatCharts [] clusters
  pure (helmCharts.map toSchema)

/-- The `watches` field; `toSchema` is `watch.toSchema(root, stores, context)`. -/
def watches {σ : Type} (toSchema : Watch → σ) (userId : String) : Resolver (List σ) := do
  let found ← ExceptT.mk (Prog.invoke (.listWatches userId))
  pure (found.map toSchema)

/-- The `kotsApps` field: a stub that answers one app without a query. -/
def kotsApps : Resolver (List KotsApp) := pure [⟨"kots-app"⟩]

/-- What `listApps` returns: one resolver a field, each run when its field is queried. -/
structure Apps (σw σh : Type) where
  watches : Resolver (List σw)
  kotsApps : Resolver (List KotsApp)
  pendingUnforks : Resolver (List σh)

/-- `listApps(root, args, context)` for the user `context.session.userId`. -/
def listApps {σw σh : Type} (watchSchema : Watch → σw) (chartSchema : HelmChart → σh) (userId : String) :
    Apps σw σh :=
  ⟨watches watchSchema userId, kotsApps, pendingUnforks chartSchema userId⟩

section Exec

variable (answer : (c : Call) → c.Response)

theorem concatCharts_exec (helmCharts : List HelmChart) (clusters : List Cluster) :
    (Prog.exec answer (concatCharts helmCharts clusters).run).2 =
      (clusters.mapM fun cluster => answer (.listHelmChartsInCluster cluster.id)).map
        fun chartss => helmCharts ++ chartss.flatten := by
  induction clusters generalizing helmCharts with
  | nil => exact congrArg Except.ok (List.append_nil helmCharts).symm
  | cons cluster clusters ih =>
    simp only [concatCharts, ExceptT.run_bind, ExceptT.run_mk, List.mapM_cons, Prog.exec_invoke_bind]
    cases answer (.listHelmChartsInCluster cluster.id) with
    | error err => rfl
    | ok charts =>
      dsimp only
      rw [ih (helmCharts ++ charts)]
      cases clusters.mapM fun cluster => answer (.listHelmChartsInCluster cluster.id) with
      | error err => rfl
      | ok chartss => exact congrArg Except.ok (List.append_assoc _ _ _)

theorem concatCharts_queries (helmCharts : List HelmChart) (clusters : List Cluster) {found : List HelmChart}
    (resolved : (Prog.exec answer (concatCharts helmCharts clusters).run).2 = .ok found) :
    (Prog.exec answer (concatCharts helmCharts clusters).run).1.map Sigma.fst =
      clusters.map fun cluster => .listHelmChartsInCluster cluster.id := by
  induction clusters generalizing helmCharts with
  | nil => rfl
  | cons cluster clusters ih =>
    simp only [concatCharts, ExceptT.run_bind, ExceptT.run_mk, Prog.exec_invoke_bind] at resolved ⊢
    revert resolved
    cases answer (.listHelmChartsInCluster cluster.id) with
    | error err => exact fun resolved => nomatch resolved
    | ok charts => exact fun resolved => congrArg (_ :: ·) (ih _ resolved)

/-- Each field of `listApps` resolves to what it stands for: the user's watches in their schema,
    the one stub app without a query, and the charts of every cluster of the user, cluster after
    cluster, in their schema. A rejected query rejects the field with its error. -/
theorem listApps_resolves {σw σh : Type} (watchSchema : Watch → σw) (chartSchema : HelmChart → σh)
    (userId : String) :
    (Prog.exec answer (listApps watchSchema chartSchema userId).watches.run).2 =
        (answer (.listWatches userId)).map (List.map watchSchema) ∧
      Prog.exec answer (listApps watchSchema chartSchema userId).kotsApps.run = ([], .ok [⟨"kots-app"⟩]) ∧
      (Prog.exec answer (listApps watchSchema chartSchema userId).pendingUnforks.run).2 = (do
        let clusters ← answer (.listClusters userId)
        let chartss ← clusters.mapM fun cluster => answer (.listHelmChartsInCluster cluster.id)
        pure (chartss.flatten.map chartSchema)) := by
  refine ⟨?_, rfl, ?_⟩
  · simp only [listApps, watches, ExceptT.run_bind, ExceptT.run_mk, Prog.exec_invoke_bind]
    cases answer (.listWatches userId) <;> rfl
  · simp only [listApps, pendingUnforks, ExceptT.run_bind, ExceptT.run_mk, Prog.exec_invoke_bind]
    cases answer (.listClusters userId) with
    | error err => rfl
    | ok clusters =>
      show _ = (clusters.mapM fun cluster => answer (.listHelmChartsInCluster cluster.id)) >>= fun chartss =>
        pure (chartss.flatten.map chartSchema)
      rw [Prog.exec_bind, concatCharts_exec]
      cases clusters.mapM fun cluster => answer (.listHelmChartsInCluster cluster.id) with
      | error err => rfl
      | ok chartss => exact congrArg (fun charts => Except.ok (List.map chartSchema charts)) (List.nil_append _)

/-- A `pendingUnforks` that resolves has listed the user's clusters once and then asked for the
    charts of each listed cluster exactly once, in the order of the listing. -/
theorem pendingUnforks_queries_each_cluster_once {σ : Type} (toSchema : HelmChart → σ) (userId : String)
    {found : List σ} (resolved : (Prog.exec answer (pendingUnforks toSchema userId).run).2 = .ok found) :
    ∃ clusters, answer (.listClusters userId) = .ok clusters ∧
      (Prog.exec answer (pendingUnforks toSchema userId).run).1.map Sigma.fst =
        .listClusters userId :: clusters.map fun cluster => .listHelmChartsInCluster cluster.id := by
  simp only [pendingUnforks, ExceptT.run_bind, ExceptT.run_mk, Prog.exec_invoke_bind] at resolved ⊢
  cases listed : answer (.listClusters userId) with
  | error err => simp only [listed] at resolved; cases resolved
  | ok clusters =>
    simp only [listed, Prog.exec_bind] at resolved ⊢
    refine ⟨clusters, rfl, ?_⟩
    cases charted : (Prog.exec answer (concatCharts [] clusters).run).2 with
    | error err => simp only [charted] at resolved; cases resolved
    | ok helmCharts =>
      simp only [charted, List.map_cons, List.map_append, concatCharts_queries answer [] clusters charted]
      exact congrArg (_ :: ·) (List.append_nil _)

end Exec

def twoClusters : (c : Call) → c.Response
  | .listWatches _ => .ok []
  | .listClusters _ => .ok [⟨"a"⟩, ⟨"b"⟩]
  | .listHelmChartsInCluster "a" => .ok [⟨"x"⟩]
  | .listHelmChartsInCluster _ => .ok [⟨"y"⟩, ⟨"z"⟩]

theorem two_clusters_queried_once :
    (Prog.exec twoClusters (pendingUnforks HelmChart.id "u").run).2 = .ok ["x", "y", "z"] ∧
      ∃ clusters, twoClusters (.listClusters "u") = .ok clusters ∧
        (Prog.exec twoClusters (pendingUnforks HelmChart.id "u").run).1.map Sigma.fst =
          .listClusters "u" :: clusters.map fun cluster => .listHelmChartsInCluster cluster.id :=
  have resolved : (Prog.exec twoClusters (pendingUnforks HelmChart.id "u").run).2 = .ok ["x", "y", "z"] := rfl
  ⟨resolved, pendingUnforks_queries_each_cluster_once twoClusters HelmChart.id "u" resolved⟩

end Kots.Resolvers
