import SoTp.Lib.Run
import SoTp.Memoria.Instruccion
import SoTp.Memoria.Peticiones

/-!
# The CPU and memoria in lockstep

The connection between the CPU and `hilo_instrucciones_cpu`
(`memoria/src/manejar_cpu.c`, lines 43–124), as a machine of two parties. A request is
taken with the operation and the ids that memoria reads of it; the replies are bytes in
flight.

The CPU waits with `RecibirBuffer` after `leer_en_memoria`, `escribir_en_memoria`,
`solicitar_instruccion` and `solicitar_contexto` (`cpu/src/conexion_memoria.c`), and
not after `MEMORIA_CPU_ACTUALIZAR_CONTEXTO` (`cpu/src/main.c`, line 121). Memoria
answers that one, and is silent about `MEMORIA_CPU_READ_MEM`, `MEMORIA_CPU_WRITE_MEM`
and a context it does not have.

* `debida_iff`: the requests that are answered as the CPU expects.
* `paso_lockstep`: what a step keeps.
* `run_sincronia`: **the parties stay in lockstep in every run in which memoria handles
  such requests only.**
* `not_run_sincronia_actualizar`: after an update of a context the next reply is read
  wrong.
-/

namespace SoTp.Memoria

open SoTp.Lib SoTp.Utils

/-! ## Model -/

/-- A request of the CPU, with what memoria reads of it. -/
inductive PeticionCpu where
  | obtenerContexto (pid tid : Int32)
  | actualizarContexto (pid tid : Int32) (contexto : TContextoCpu)
  | obtenerInstruccion (pid tid pc : Int32)
  | readMem
  | writeMem

/-- The CPU goes on with `RecibirBuffer`. -/
def PeticionCpu.espera : PeticionCpu → Bool
  | actualizarContexto _ _ _ => false
  | _ => true

/-- One turn of `hilo_instrucciones_cpu`: the bytes sent, if any, and the store after
it; `none` when memoria follows `NULL`. -/
def atenderCpu (cadenaEn : ℤ → CString) (g : Mem) (m : Almacen) :
    PeticionCpu → Option (Option (List UInt8) × Almacen)
  | .obtenerContexto pid tid =>
    (obtenerContexto cadenaEn m pid tid).map fun contexto =>
      (contexto.map fun contexto => enviarBuffer (bufferEnviarContexto g contexto), m)
  | .actualizarContexto pid tid contexto =>
    (actualizarContexto m pid tid contexto).map fun r =>
      (some (enviarEstado g (intOfBool r.1) .cpuActualizarContexto), r.2)
  | .obtenerInstruccion pid tid pc => do
    let instruccion ← obtenerInstruccionNumero m pid tid pc
    let respuesta ← enviarInstruccion g instruccion
    some (some respuesta, m)
  | .writeMem => some (none, m)
  | .readMem => some (none, m)

/-- A request that memoria has handled: what it answered, or `none` if it did not come
back. -/
structure Atendida where
  peticion : PeticionCpu
  respuesta : Option (Option (List UInt8))

/-- The two parties: the store of memoria, whether it is alive, the requests it has not
handled, the bytes that the CPU has not read and the request for which it waits.
`atendidas` and `leidas` record what has been handled and what has been read. -/
structure Enlace where
  almacen : Almacen
  viva : Bool
  pendientes : List PeticionCpu
  enVuelo : List UInt8
  espera : Option PeticionCpu
  atendidas : List Atendida
  leidas : List (PeticionCpu × TBuffer)

/-- What happens: the CPU sends a request, memoria handles one, the CPU reads a reply,
or the kernel changes the store. -/
inductive EventoEnlace where
  | pide (peticion : PeticionCpu)
  | atiende (cadenaEn : ℤ → CString) (g : Mem)
  | recibe (g : Mem)
  | kernel (almacen : Almacen)

/-- Nothing sent, nothing handled. -/
def enlaceInicial (m : Almacen) : Enlace where
  almacen := m
  viva := true
  pendientes := []
  enVuelo := []
  espera := none
  atendidas := []
  leidas := []

/-- Memoria handles `peticion`. -/
def Enlace.atender (s : Enlace) (cadenaEn : ℤ → CString) (g : Mem) (peticion : PeticionCpu)
    (pendientes : List PeticionCpu) : Enlace :=
  match atenderCpu cadenaEn g s.almacen peticion with
  | none =>
    { s with
      viva := false
      pendientes := pendientes
      atendidas := s.atendidas ++ [⟨peticion, none⟩] }
  | some (respuesta, almacen) =>
    { s with
      almacen := almacen
      pendientes := pendientes
      enVuelo := s.enVuelo ++ respuesta.getD []
      atendidas := s.atendidas ++ [⟨peticion, some respuesta⟩] }

/-- One event. The CPU sends only when it does not wait, and `RecibirBuffer` blocks
until the bytes are there. -/
def pasoEnlace (s : Enlace) : EventoEnlace → Option Enlace
  | .pide peticion =>
    if s.espera.isSome then none
    else
      some
        { s with
          pendientes := s.pendientes ++ [peticion]
          espera := if peticion.espera then some peticion else none }
  | .atiende cadenaEn g =>
    if s.viva then
      match s.pendientes with
      | [] => none
      | peticion :: pendientes => some (s.atender cadenaEn g peticion pendientes)
    else none
  | .recibe g => do
    let peticion ← s.espera
    let (buffer, enVuelo) ← recibirBuffer g s.enVuelo
    some
      { s with
        enVuelo := enVuelo
        espera := none
        leidas := s.leidas ++ [(peticion, buffer)] }
  | .kernel almacen => some { s with almacen := almacen }

/-! ## Specification -/

/-- Memoria came back, and it answered if and only if the CPU waits. -/
def Atendida.Debida (a : Atendida) : Prop :=
  ∃ respuesta, a.respuesta = some respuesta ∧ (respuesta.isSome ↔ a.peticion.espera)

/-- The replies, with the requests they answer. -/
def respuestas (atendidas : List Atendida) : List (PeticionCpu × List UInt8) :=
  atendidas.filterMap fun a => a.respuesta.join.map fun bytes => (a.peticion, bytes)

/-- Lockstep: every request is answered as the CPU expects, nothing is in flight when
the CPU may send, and what the CPU has read are the replies to the requests for which
it was waiting, in order. -/
structure Sincronia (s : Enlace) : Prop where
  debidas : ∀ a ∈ s.atendidas, a.Debida
  libre : s.espera = none → s.enVuelo = []
  leidas : (s.leidas.map fun r => (r.1, enviarBuffer r.2)) <+: respuestas s.atendidas

/-- The requests that memoria answers as the CPU expects: a context of a thread that
it has, or an instruction that the thread has. -/
def PeticionCpu.Contestable (m : Almacen) : PeticionCpu → Prop
  | obtenerContexto pid tid => ∃ hilo, getHilo m pid tid = some (some hilo)
  | obtenerInstruccion pid tid pc =>
    ∃ hilo, getHilo m pid tid = some (some hilo) ∧ hilo.liberado = false ∧
      (listGet hilo.instrucciones pc).isSome
  | _ => False

/-- The condition on a step: should memoria handle a request, it is one of those. -/
def Contesta (s : Enlace) : EventoEnlace → Prop
  | .atiende _ _ => ∀ peticion ∈ s.pendientes.head?, peticion.Contestable s.almacen
  | _ => True

/-! ## One request -/

theorem obtenerContexto_isSome_iff {cadenaEn : ℤ → CString} {m : Almacen} {pid tid : Int32} :
    (∃ contexto, obtenerContexto cadenaEn m pid tid = some (some contexto)) ↔
      ∃ hilo, getHilo m pid tid = some (some hilo) := by
  unfold obtenerContexto
  cases hproceso : getProceso m pid with
  | none => simp [getHilo_of_none hproceso]
  | some proceso => simp [Option.map_eq_some_iff]

theorem obtenerInstruccionNumero_isSome_iff {m : Almacen} {pid tid pc : Int32} :
    (∃ texto, obtenerInstruccionNumero m pid tid pc = some (some texto)) ↔
      ∃ hilo, getHilo m pid tid = some (some hilo) ∧ hilo.liberado = false ∧
        (listGet hilo.instrucciones pc).isSome := by
  constructor
  · rintro ⟨texto, h⟩
    obtain ⟨encontrado, hhilo, hbind⟩ := Option.bind_eq_some_iff.mp h
    obtain ⟨hilo, rfl, hif⟩ := Option.bind_eq_some_iff.mp hbind
    split at hif
    · cases hif
    · rename_i hvivo
      refine ⟨hilo, hhilo, Bool.eq_false_iff.mpr hvivo, ?_⟩
      rw [Option.some.inj hif]
      rfl
  · rintro ⟨hilo, hhilo, hvivo, hpc⟩
    obtain ⟨texto, htexto⟩ := Option.isSome_iff_exists.mp hpc
    refine ⟨texto, ?_⟩
    simp [obtenerInstruccionNumero, hhilo, hvivo, htexto]

/-- What memoria does with a request that it answers as expected. -/
theorem atenderCpu_of_contestable (cadenaEn : ℤ → CString) (g : Mem) {m : Almacen}
    {peticion : PeticionCpu} (h : peticion.Contestable m) :
    peticion.espera = true ∧
      ∃ buffer, atenderCpu cadenaEn g m peticion = some (some (enviarBuffer buffer), m) := by
  cases peticion with
  | obtenerContexto pid tid =>
    obtain ⟨contexto, hcontexto⟩ := (@obtenerContexto_isSome_iff cadenaEn m pid tid).mpr h
    refine ⟨rfl, bufferEnviarContexto g contexto, ?_⟩
    simp [atenderCpu, hcontexto]
  | obtenerInstruccion pid tid pc =>
    obtain ⟨texto, htexto⟩ := obtenerInstruccionNumero_isSome_iff.mpr h
    refine ⟨rfl, bufferInstruccion g texto, ?_⟩
    simp [atenderCpu, htexto, enviarInstruccion]
  | actualizarContexto pid tid contexto => exact h.elim
  | readMem => exact h.elim
  | writeMem => exact h.elim

/-- **The requests that are answered as the CPU expects** are those of `Contestable`. -/
theorem debida_iff (cadenaEn : ℤ → CString) (g : Mem) (m : Almacen) (peticion : PeticionCpu) :
    (∃ respuesta m', atenderCpu cadenaEn g m peticion = some (respuesta, m') ∧
      (respuesta.isSome ↔ peticion.espera)) ↔ peticion.Contestable m := by
  constructor
  · rintro ⟨respuesta, m', hatender, hdebida⟩
    cases peticion with
    | obtenerContexto pid tid =>
      obtain ⟨contexto, hcontexto, heq⟩ := Option.map_eq_some_iff.mp hatender
      obtain ⟨rfl, -⟩ := Prod.mk.inj heq
      obtain ⟨contexto, rfl⟩ : ∃ c, contexto = some c := by
        rw [Option.isSome_map] at hdebida
        exact Option.isSome_iff_exists.mp (hdebida.mpr rfl)
      exact obtenerContexto_isSome_iff.mp ⟨contexto, hcontexto⟩
    | actualizarContexto pid tid contexto =>
      obtain ⟨r, -, heq⟩ := Option.map_eq_some_iff.mp hatender
      obtain ⟨rfl, -⟩ := Prod.mk.inj heq
      exact absurd (hdebida.mp rfl) Bool.false_ne_true
    | obtenerInstruccion pid tid pc =>
      obtain ⟨instruccion, hinstruccion, hbind⟩ := Option.bind_eq_some_iff.mp hatender
      obtain ⟨bytes, hbytes, -⟩ := Option.bind_eq_some_iff.mp hbind
      obtain ⟨texto, rfl, -⟩ := Option.map_eq_some_iff.mp hbytes
      exact obtenerInstruccionNumero_isSome_iff.mp ⟨texto, hinstruccion⟩
    | readMem =>
      obtain ⟨rfl, -⟩ := Prod.mk.inj (Option.some.inj hatender)
      exact absurd (hdebida.mpr rfl) (by decide)
    | writeMem =>
      obtain ⟨rfl, -⟩ := Prod.mk.inj (Option.some.inj hatender)
      exact absurd (hdebida.mpr rfl) (by decide)
  · intro h
    obtain ⟨hespera, buffer, hatender⟩ := atenderCpu_of_contestable cadenaEn g h
    refine ⟨_, _, hatender, ?_⟩
    rw [hespera]
    exact iff_of_true rfl rfl

/-! ## One step -/

/-- Where a request and its reply are. -/
inductive Fase (s : Enlace) : Prop
  /-- The CPU does not wait. -/
  | libre (hespera : s.espera = none) (hvuelo : s.enVuelo = [])
      (hpendientes : ∀ q ∈ s.pendientes, q.espera = false)
      (hleidas : (s.leidas.map fun r => (r.1, enviarBuffer r.2)) = respuestas s.atendidas)
  /-- The CPU waits for the answer to its last request, which memoria has not handled. -/
  | pedida (p : PeticionCpu) (previas : List PeticionCpu) (hespera : s.espera = some p)
      (hvuelo : s.enVuelo = []) (hpendientes : s.pendientes = previas ++ [p])
      (hprevias : ∀ q ∈ previas, q.espera = false)
      (hleidas : (s.leidas.map fun r => (r.1, enviarBuffer r.2)) = respuestas s.atendidas)
  /-- The answer is in flight. -/
  | respondida (p : PeticionCpu) (buffer : TBuffer) (hespera : s.espera = some p)
      (hvuelo : s.enVuelo = enviarBuffer buffer) (hpendientes : s.pendientes = [])
      (hleidas : (s.leidas.map fun r => (r.1, enviarBuffer r.2)) ++ [(p, enviarBuffer buffer)] =
        respuestas s.atendidas)

/-- What every run keeps whose requests are answered as expected. -/
structure Lockstep (s : Enlace) : Prop where
  debidas : ∀ a ∈ s.atendidas, a.Debida
  fase : Fase s

theorem Lockstep.libre {s : Enlace} (h : Lockstep s) (hnone : s.espera = none) :
    s.enVuelo = [] ∧ (∀ q ∈ s.pendientes, q.espera = false) ∧
      (s.leidas.map fun r => (r.1, enviarBuffer r.2)) = respuestas s.atendidas := by
  cases h.fase with
  | libre hespera hvuelo hpendientes hleidas => exact ⟨hvuelo, hpendientes, hleidas⟩
  | pedida p previas hespera =>
    rw [hespera] at hnone
    cases hnone
  | respondida p buffer hespera =>
    rw [hespera] at hnone
    cases hnone

theorem Lockstep.sincronia {s : Enlace} (h : Lockstep s) : Sincronia s where
  debidas := h.debidas
  libre hnone := (h.libre hnone).1
  leidas := by
    cases h.fase with
    | libre hespera hvuelo hpendientes hleidas => rw [hleidas]
    | pedida p previas hespera hvuelo hpendientes hprevias hleidas => rw [hleidas]
    | respondida p buffer hespera hvuelo hpendientes hleidas =>
      rw [← hleidas]
      exact List.prefix_append _ _

theorem lockstep_inicial (m : Almacen) : Lockstep (enlaceInicial m) where
  debidas := by simp [enlaceInicial]
  fase := .libre rfl rfl (by simp [enlaceInicial]) rfl

/-- The CPU sends a request. -/
theorem lockstep_pide {s : Enlace} (h : Lockstep s) (hespera : s.espera = none)
    (p : PeticionCpu) :
    Lockstep { s with
      pendientes := s.pendientes ++ [p]
      espera := if p.espera then some p else none } where
  debidas := h.debidas
  fase := by
    obtain ⟨hvuelo, hpendientes, hleidas⟩ := h.libre hespera
    by_cases hp : p.espera = true
    · exact .pedida p s.pendientes (if_pos hp) hvuelo rfl hpendientes hleidas
    · refine .libre (if_neg hp) hvuelo ?_ hleidas
      intro q hq
      rcases List.mem_append.mp hq with hq | hq
      · exact hpendientes q hq
      · rw [List.mem_singleton.mp hq]
        exact Bool.eq_false_iff.mpr hp

/-- Memoria handles a request that it answers as expected: it is the one for which the
CPU waits. -/
theorem lockstep_atiende {s : Enlace} (h : Lockstep s) {p : PeticionCpu}
    {pendientes : List PeticionCpu} (hpend : s.pendientes = p :: pendientes)
    (hp : p.Contestable s.almacen) (cadenaEn : ℤ → CString) (g : Mem) :
    Lockstep (s.atender cadenaEn g p pendientes) := by
  obtain ⟨hespera, buffer, hatender⟩ := atenderCpu_of_contestable cadenaEn g hp
  simp only [Enlace.atender, hatender]
  constructor
  · intro a ha
    rcases List.mem_append.mp ha with ha | ha
    · exact h.debidas a ha
    · rw [List.mem_singleton.mp ha]
      refine ⟨_, rfl, ?_⟩
      show _ ↔ p.espera = true
      rw [hespera]
      exact iff_of_true rfl rfl
  · cases h.fase with
    | libre _ _ hpendientes _ =>
      have hfalse := hpendientes p (by rw [hpend]; exact List.mem_cons_self)
      rw [hespera] at hfalse
      cases hfalse
    | pedida q previas hq hvuelo hpendientes hprevias hleidas =>
      rw [hpend] at hpendientes
      cases previas with
      | nil =>
        obtain ⟨rfl, rfl⟩ := List.cons.inj hpendientes
        refine .respondida p buffer hq ?_ rfl ?_
        · show s.enVuelo ++ enviarBuffer buffer = _
          rw [hvuelo, List.nil_append]
        · show _ = respuestas (s.atendidas ++ _)
          rw [hleidas, respuestas, respuestas, List.filterMap_append]
          rfl
      | cons q' previas =>
        have hfalse := hprevias q' List.mem_cons_self
        rw [← (List.cons.inj hpendientes).1, hespera] at hfalse
        cases hfalse
    | respondida q buffer hq hvuelo hpendientes =>
      rw [hpend] at hpendientes
      cases hpendientes

theorem enviarBuffer_recibido (g : Mem) (n : ℕ) (buffer : TBuffer) :
    enviarBuffer ⟨buffer.size, 0, (Block.alloc g n).store 0 buffer.payload⟩ =
      enviarBuffer buffer := by
  have hread : (g.write 0 buffer.payload).read 0 buffer.size.toNat = buffer.payload := by
    have h := Mem.read_write_self g 0 buffer.payload
    rwa [buffer.length_payload] at h
  exact congrArg (bytesUint32 buffer.size ++ ·) hread

/-- The CPU reads a reply. -/
theorem lockstep_recibe {s : Enlace} (h : Lockstep s) {p : PeticionCpu}
    (hespera : s.espera = some p) {g : Mem} {buffer : TBuffer} {enVuelo : List UInt8}
    (hrecibir : recibirBuffer g s.enVuelo = some (buffer, enVuelo)) :
    Lockstep { s with
      enVuelo := enVuelo
      espera := none
      leidas := s.leidas ++ [(p, buffer)] } where
  debidas := h.debidas
  fase := by
    cases h.fase with
    | libre hq => rw [hespera] at hq; cases hq
    | pedida q previas hq hvuelo =>
      rw [hvuelo] at hrecibir
      cases hrecibir
    | respondida q enviado hq hvuelo hpendientes hleidas =>
      obtain rfl : p = q := Option.some.inj (hespera.symm.trans hq)
      have hbuffer := recibirBuffer_enviarBuffer_eq g enviado []
      rw [List.append_nil, ← hvuelo, hrecibir] at hbuffer
      obtain ⟨rfl, rfl⟩ := Prod.mk.inj (Option.some.inj hbuffer)
      refine .libre rfl rfl (by simp [hpendientes]) ?_
      show List.map _ (s.leidas ++ [_]) = _
      rw [List.map_append, ← hleidas, List.map_singleton, enviarBuffer_recibido]

/-- **One step** taken under the condition keeps the lockstep. -/
theorem paso_lockstep {s s' : Enlace} {evento : EventoEnlace} (h : Lockstep s)
    (hcontesta : Contesta s evento) (hpaso : pasoEnlace s evento = some s') : Lockstep s' := by
  cases evento with
  | pide p =>
    simp only [pasoEnlace] at hpaso
    split at hpaso
    · cases hpaso
    · rename_i hespera
      obtain rfl := Option.some.inj hpaso
      exact lockstep_pide h (by simpa using hespera) p
  | atiende cadenaEn g =>
    simp only [pasoEnlace] at hpaso
    split at hpaso
    · cases hpend : s.pendientes with
      | nil => rw [hpend] at hpaso; cases hpaso
      | cons p pendientes =>
        rw [hpend] at hpaso
        obtain rfl := Option.some.inj hpaso
        exact lockstep_atiende h hpend (hcontesta p (by rw [hpend]; rfl)) cadenaEn g
    · cases hpaso
  | recibe g =>
    obtain ⟨p, hespera, hpaso⟩ := Option.bind_eq_some_iff.mp hpaso
    obtain ⟨⟨buffer, enVuelo⟩, hrecibir, hpaso⟩ := Option.bind_eq_some_iff.mp hpaso
    obtain rfl := Option.some.inj hpaso
    exact lockstep_recibe h hespera hrecibir
  | kernel almacen =>
    obtain rfl := Option.some.inj hpaso
    refine ⟨h.debidas, ?_⟩
    cases h.fase with
    | libre hespera hvuelo hpendientes hleidas =>
      exact .libre hespera hvuelo hpendientes hleidas
    | pedida p previas hespera hvuelo hpendientes hprevias hleidas =>
      exact .pedida p previas hespera hvuelo hpendientes hprevias hleidas
    | respondida p buffer hespera hvuelo hpendientes hleidas =>
      exact .respondida p buffer hespera hvuelo hpendientes hleidas

/-! ## Whole runs -/

/-- **Lockstep** after every run in which each request that memoria handles is for a
context of a thread that it has or for an instruction that the thread has. -/
theorem run_sincronia (m : Almacen) (eventos : List EventoEnlace) (s : Enlace)
    (hcontesta : Along pasoEnlace Contesta (enlaceInicial m) eventos)
    (hrun : run pasoEnlace (enlaceInicial m) eventos = some s) : Sincronia s := by
  apply Lockstep.sincronia
  exact run_invariant (fun _ _ _ hs hP hstep => paso_lockstep hs hP hstep) (lockstep_inicial m)
    hcontesta hrun

/-- Process 1 with thread 0, which has one instruction: it is asked for, sent and read. -/
theorem run_sincronia_exit :
    let m : Almacen := ⟨AList.singleton (stringItoa 1) ⟨1, 4096, 64, AList.singleton (stringItoa 0)
      (nuevoHilo 0 (CString.ofBytes []) 0 [CString.ofBytes (ascii "EXIT")]),
      CString.ofBytes [], false⟩, []⟩
    ∃ s, run pasoEnlace (enlaceInicial m) [.pide (.obtenerInstruccion 1 0 0),
        .atiende (fun _ => CString.ofBytes []) (fun _ => 0), .recibe (fun _ => 0)] = some s ∧
      s.leidas.length = 1 ∧ Sincronia s := by
  intro m
  refine ⟨_, rfl, rfl, run_sincronia m [.pide (.obtenerInstruccion 1 0 0),
    .atiende (fun _ => CString.ofBytes []) (fun _ => 0), .recibe (fun _ => 0)] _ ?_ rfl⟩
  refine along_cons rfl trivial ⟨?_, fun _ _ => ⟨trivial, fun _ _ => trivial⟩⟩
  intro peticion hpeticion
  obtain rfl := Option.some.inj hpeticion
  exact ⟨_, rfl, rfl, rfl⟩

/-- After the update of a context, here of a process that does not exist, the CPU takes
the operation code of the answer, 1, for the size of its next reply. -/
theorem not_run_sincronia_actualizar :
    let m : Almacen := ⟨AList.singleton (stringItoa 1) ⟨1, 4096, 64, AList.singleton (stringItoa 0)
      (nuevoHilo 0 (CString.ofBytes []) 0 [CString.ofBytes (ascii "EXIT")]),
      CString.ofBytes [], false⟩, []⟩
    ∃ s, run pasoEnlace (enlaceInicial m) [.pide (.actualizarContexto 9 9
          ⟨⟨CString.ofBytes [], 0⟩, inicializarRegistros⟩),
        .atiende (fun _ => CString.ofBytes []) (fun _ => 0), .pide (.obtenerInstruccion 1 0 0),
        .atiende (fun _ => CString.ofBytes []) (fun _ => 0), .recibe (fun _ => 0)] = some s ∧
      s.leidas.map (fun r => r.2.payload) = [[4]] ∧ ¬ Sincronia s := by
  intro m
  refine ⟨_, rfl, rfl, ?_⟩
  intro h
  obtain ⟨respuesta, hrespuesta, hdebida⟩ := h.debidas _ List.mem_cons_self
  obtain rfl := Option.some.inj hrespuesta
  exact Bool.false_ne_true (hdebida.mp rfl)

end SoTp.Memoria
