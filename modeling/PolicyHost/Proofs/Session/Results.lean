import PolicyHost.Proofs.Guest.Resolution
import PolicyHost.Proofs.Json.Canonical
import PolicyHost.Proofs.Session.Endings
import PolicyHost.Proofs.Session.Evaluation

/-!
# What a guest tells

Whatever a guest does, the host takes only values of JSON texts from it. So the result
of an evaluation lists its members in order and is nested no deeper than a text can be
(`formed_outcome`), and the tables of a session that was launched list every id and
every name once (`launch_tables`).
-/

namespace PolicyHost

open Json Guest

namespace Guest

variable {g : Guest} {host : Host} {registry : Builtin.Registry}

theorem dump_formed (a : UInt32) : Provides (Formed Reader.nestingLimit) (dump g host a) := by
  refine .bind fun place => .bind fun s => ?_
  split
  · exact .throw _
  · next bytes htext =>
      split
      · next v hread => exact .pure (formed_of_ofBytes? hread)
      · exact .throw _

/-- Tables that list every id and every name once. -/
structure Tables.Ordered (tables : Tables) : Prop where
  builtins : Keyed.Increasing tables.builtins.slots
  entrypoints : Keyed.Increasing tables.entrypoints

theorem increasing_of_resolve {v : Value} {t : BuiltinTable}
    (h : BuiltinTable.resolve registry v = .ok t) : Keyed.Increasing t.slots := by
  rw [BuiltinTable.resolve] at h
  split at h
  · cases h
    exact increasing_slots
  · cases h

theorem increasing_entrypointsOfValue {v : Value} (hv : v.Canonical)
    {entrypoints : Keyed String EntrypointId} (h : entrypointsOfValue v = .ok entrypoints) :
    Keyed.Increasing entrypoints := by
  rw [entrypointsOfValue] at h
  split at h
  · next ids hids =>
      cases h
      cases v with
      | object members =>
          have hids := increasing_of_gives (gives_of_idsOfValue? hids) hv.1
          exact Keyed.increasing_iff.mpr (List.pairwise_map.mpr (Keyed.increasing_iff.mp hids))
      | _ => cases hids
  · cases h

theorem tellTables_ordered : Provides Tables.Ordered (tellTables g host registry) := by
  refine .bind fun _ => .bind fun names => .bind fun v =>
    .bind_of (.lift fun t => increasing_of_resolve) fun t ht => ?_
  split
  · exact .pure ⟨ht, trivial⟩
  · refine .bind fun _ => .bind fun names => .bind_of (dump_formed names) fun v hv =>
      .bind_of (.lift fun entrypoints => increasing_entrypointsOfValue hv.canonical)
        fun entrypoints he => .pure ⟨ht, he⟩

theorem instantiate_ordered (config : Config) :
    Provides Tables.Ordered (instantiate g config registry) :=
  .bind fun _ => .bind fun _ => .bind fun _ => .bind fun _ => tellTables_ordered

end Guest

namespace Session

variable {s t : Session}

/-- The tables of a session that was launched list every id and every name once. -/
theorem launch_tables {g : Guest} {config : Config} {registry : Builtin.Registry}
    {lines : List String} (h : launch g config registry = (.ok s, lines)) :
    ∃ t, s.services.table = some t ∧ Tables.Ordered ⟨t, s.entrypoints⟩ := by
  obtain ⟨tables, u, data, v, base, w, hstart, -, -, rfl⟩ := launch_ok h
  exact ⟨tables.builtins, rfl, instantiate_ordered config _ _ _ hstart⟩

end Session

end PolicyHost
