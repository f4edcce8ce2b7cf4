import SoTp.Cpu.Retorno
import SoTp.Kernel.Syscall

/-!
# The reason of an eviction

The records that `executeInstruccion` appends to the reply (`cpu/src/cpu.c`, lines
357–610) against the cases of `interpretarCPU` that read them
(`kernel/src/main.c`, lines 222–489).

* `leerArgumentos_eq`: the cases of the kernel as a list of the accessors they call.
* `registroFiel_iff`: **the record of an instruction is the one its case reads
  exactly when it is neither `WRITE_MEM` nor `MUTEX_UNLOCK`**.
* `motivoFiel_iff`: **a run that a syscall ends appends the record of that syscall
  alone exactly when every instruction before it has no case in
  `executeInstruccion`**.
-/

namespace SoTp.Kernel

open SoTp.Lib SoTp.Utils SoTp.Cpu

/-! ## What the cases read -/

/-- The accessors that the case of `funcion` calls, in order. -/
def camposLeidos (funcion : Int32) : List FieldType :=
  if funcion = Instruccion.io.codigo then [.uint32]
  else if funcion = Instruccion.processCreate.codigo then [.string, .uint32, .uint32]
  else if funcion = Instruccion.threadCreate.codigo then [.string, .uint32]
  else if funcion = Instruccion.threadJoin.codigo ∨ funcion = Instruccion.threadCancel.codigo then
    [.uint32]
  else if funcion = Instruccion.mutexCreate.codigo ∨ funcion = Instruccion.mutexLock.codigo then
    [.string]
  else if funcion = Instruccion.mutexUnlock.codigo then [.string, .string]
  else if funcion = Instruccion.writeMem.codigo then [.int]
  else []

/-- A case reads these fields. All of them are arguments, but for the first resource of
`MUTEX_UNLOCK`. -/
theorem leerArgumentos_eq (funcion : Int32) (buffer : TBuffer) :
    leerArgumentos funcion buffer =
      ((readFields buffer (camposLeidos funcion)).1.drop
        (if funcion = Instruccion.mutexUnlock.codigo then 1 else 0),
        (readFields buffer (camposLeidos funcion)).2) := by
  by_cases hunlock : funcion = Instruccion.mutexUnlock.codigo
  · subst hunlock
    rfl
  · rw [if_neg hunlock, List.drop_zero]
    unfold leerArgumentos camposLeidos
    split_ifs <;> rfl

/-! ## The record of an instruction -/

/-- The fields are the record of the instruction: its PID, its TID and its code, and then
what the case of that code reads. -/
def RegistroFiel (PID TID : UInt32) (codigo : Instruccion) (campos : List Field) : Prop :=
  ∃ argumentos, campos = encabezado PID TID codigo.codigo ++ argumentos ∧
    argumentos.map Field.type = camposLeidos codigo.codigo

theorem encabezado_append_iff {PID TID : UInt32} {codigo codigo' : Instruccion}
    {argumentos : List Field} :
    RegistroFiel PID TID codigo (encabezado PID TID codigo'.codigo ++ argumentos) ↔
      codigo.codigo = codigo'.codigo ∧
        argumentos.map Field.type = camposLeidos codigo.codigo := by
  unfold RegistroFiel encabezado
  constructor
  · rintro ⟨argumentos', heq, htipos⟩
    simp only [List.cons_append, List.nil_append, List.cons.injEq, true_and, Field.int.injEq]
      at heq
    obtain ⟨hcodigo, rfl⟩ := heq
    exact ⟨hcodigo.symm, htipos⟩
  · rintro ⟨hcodigo, htipos⟩
    exact ⟨argumentos, by rw [hcodigo], htipos⟩

/-- **Exactly which records their case can read**: for every instruction with a case of its
own whose execution completes, every PID and TID, and every reply of memoria. -/
theorem registroFiel_iff (g : Mem) (respuesta : UInt32) (inst : TInstruccion) (PID TID : UInt32)
    (registros : Registros) (bufferRetorno : TBuffer) (e : Ejecucion)
    (hcaso : tieneCaso inst.instruccion = true)
    (he : executeInstruccion g respuesta inst PID TID registros bufferRetorno = some e) :
    e.bufferRetorno = addFields bufferRetorno (camposDe respuesta inst PID TID registros) ∧
      (RegistroFiel PID TID inst.instruccion (camposDe respuesta inst PID TID registros) ↔
        inst.instruccion ≠ .writeMem ∧ inst.instruccion ≠ .mutexUnlock) := by
  refine ⟨executeInstruccion_campos he, ?_⟩
  unfold executeInstruccion at he
  unfold camposDe
  cases hinst : inst.instruccion <;> rw [hinst] at he hcaso <;> dsimp only at he ⊢
  case writeMem =>
    -- the record carries the code of SUM
    refine iff_of_false (fun h => ?_) (by decide)
    exact absurd (encabezado_append_iff.mp h).1 (by decide)
  case mutexUnlock =>
    -- one resource is written, and two are read
    obtain ⟨recurso, hrecurso, -⟩ := Option.bind_eq_some_iff.mp he
    rw [hrecurso]
    refine iff_of_false (fun h => ?_) (by decide)
    have htipos : [FieldType.string] = [.string, .string] := (encabezado_append_iff.mp h).2
    cases htipos
  case mutexCreate | mutexLock =>
    obtain ⟨recurso, hrecurso, -⟩ := Option.bind_eq_some_iff.mp he
    rw [hrecurso]
    exact iff_of_true ⟨[.string recurso], rfl, rfl⟩ (by decide)
  case processCreate =>
    obtain ⟨registro1, hregistro1, he⟩ := Option.bind_eq_some_iff.mp he
    obtain ⟨archivo, harchivo, he⟩ := Option.bind_eq_some_iff.mp he
    obtain ⟨registro2, hregistro2, -⟩ := Option.bind_eq_some_iff.mp he
    rw [hregistro1, harchivo, hregistro2]
    exact iff_of_true ⟨[.string archivo, .uint32 (valor registros registro1),
      .uint32 (valor registros registro2)], rfl, rfl⟩ (by decide)
  case threadCreate =>
    obtain ⟨registro1, hregistro1, he⟩ := Option.bind_eq_some_iff.mp he
    obtain ⟨_, _, he⟩ := Option.bind_eq_some_iff.mp he
    obtain ⟨archivo, harchivo, -⟩ := Option.bind_eq_some_iff.mp he
    rw [hregistro1, harchivo]
    exact iff_of_true ⟨[.string archivo, .uint32 (valor registros registro1)], rfl, rfl⟩
      (by decide)
  case io | threadJoin | threadCancel =>
    exact iff_of_true ⟨[.uint32 inst.valor], rfl, rfl⟩ (by decide)
  case resize | copyString | wait | signal | instExit | invalidInstruction => cases hcaso
  -- no arguments
  all_goals exact iff_of_true ⟨[], rfl, rfl⟩ (by decide)

/-- `MUTEX_LOCK R` of thread 1 of process 3. -/
theorem registroFiel_mutexLock :
    RegistroFiel 3 1 .mutexLock
      (camposDe 0 (decodeInstruccion (CString.ofBytes (ascii "MUTEX_LOCK R"))) 3 1
        ⟨0, 0, 0, 0, 0, 0, 0, 0, 0, 0, 0⟩) := by
  have hsome : (executeInstruccion (fun _ => 0) 0
      (decodeInstruccion (CString.ofBytes (ascii "MUTEX_LOCK R"))) 3 1
      ⟨0, 0, 0, 0, 0, 0, 0, 0, 0, 0, 0⟩ (bufferCreate (fun _ => 0) 0)).isSome := by decide
  obtain ⟨e, he⟩ := Option.isSome_iff_exists.mp hsome
  exact (registroFiel_iff _ _ _ _ _ _ _ e (by decide) he).2.mpr (by decide)

/-- `WRITE_MEM AX BX` carries the code of `SUM`, and for `MUTEX_UNLOCK R` the kernel reads
a second string. -/
theorem not_registroFiel_writeMem :
    let escribe := decodeInstruccion (CString.ofBytes (ascii "WRITE_MEM AX BX"))
    let suelta := decodeInstruccion (CString.ofBytes (ascii "MUTEX_UNLOCK R"))
    let registros : Registros := ⟨0, 0, 0, 0, 0, 0, 0, 0, 0, 0, 0⟩
    ((executeInstruccion (fun _ => 0) 0 escribe 3 1 registros
        (bufferCreate (fun _ => 0) 0)).isSome ∧
      camposDe 0 escribe 3 1 registros = [.uint32 3, .uint32 1, .int 3, .int 0] ∧
      ¬ RegistroFiel 3 1 escribe.instruccion (camposDe 0 escribe 3 1 registros)) ∧
    (executeInstruccion (fun _ => 0) 0 suelta 3 1 registros
        (bufferCreate (fun _ => 0) 0)).isSome ∧
      ¬ RegistroFiel 3 1 suelta.instruccion (camposDe 0 suelta 3 1 registros) := by
  intro escribe suelta registros
  refine ⟨⟨by decide, by decide, ?_⟩, by decide, ?_⟩
  · intro h
    have hcampos : camposDe 0 escribe 3 1 registros =
        encabezado 3 1 Instruccion.sum.codigo ++ [.int 0] := by decide
    rw [hcampos] at h
    exact absurd (encabezado_append_iff.mp h).1 (by decide)
  · intro h
    have hcampos : camposDe 0 suelta 3 1 registros =
        encabezado 3 1 Instruccion.mutexUnlock.codigo ++
          [.string (CString.ofBytes (ascii "R"))] := by decide
    rw [hcampos] at h
    exact absurd (encabezado_append_iff.mp h).2 (by decide)

/-! ## The records of a run -/

/-- A syscall as one record of the reply. -/
def SyscallLeida.campos (pedida : SyscallLeida) : List Field :=
  encabezado pedida.PID pedida.TID pedida.funcion ++ pedida.argumentos

/-- The fields are the record of the syscall that the thread has returned with. -/
def MotivoFiel (PID TID : UInt32) (s : Ciclo) (campos : List Field) : Prop :=
  ∃ pedida, syscallPedida PID TID s = some pedida ∧ campos = pedida.campos

/-- The instruction of an entry of the trace has no case in `executeInstruccion`. -/
def Callada (entrada : UInt32 × CString) : Prop :=
  tieneCaso (decodeInstruccion entrada.2).instruccion = false

/-- The instruction of an entry of the trace is a syscall. -/
def EsPedido (entrada : UInt32 × CString) : Prop :=
  esSyscall (decodeInstruccion entrada.2).instruccion = true

instance (entrada : UInt32 × CString) : Decidable (Callada entrada) :=
  inferInstanceAs (Decidable (_ = false))

instance (entrada : UInt32 × CString) : Decidable (EsPedido entrada) :=
  inferInstanceAs (Decidable (_ = true))

theorem camposDe_syscall {respuesta : UInt32} {inst : TInstruccion} (PID TID : UInt32)
    (registros : Registros) (h : esSyscall inst.instruccion = true) :
    camposDe respuesta inst PID TID registros =
      encabezado PID TID inst.instruccion.codigo ++ argumentosPedidos inst registros := by
  unfold camposDe argumentosPedidos
  cases hinst : inst.instruccion <;> rw [hinst] at h <;> first | rfl | cases h

/-- What the fields appended so far say of the trace so far. -/
structure Cuenta (PID TID : UInt32) (buffer : TBuffer) (s : Ciclo) (campos : List Field) :
    Prop where
  escrito : s.bufferRetorno = addFields buffer campos
  vacio : campos = [] ↔ ∀ entrada ∈ s.traza, Callada entrada
  /-- A syscall evicts the thread, and its record is the last one. -/
  pedido : ∀ previas ultima, s.traza = previas ++ [ultima] → EsPedido ultima →
    s.interrupcionInterna = true ∧
      ∃ antes, campos = antes ++ (encabezado PID TID
          (decodeInstruccion ultima.2).instruccion.codigo ++
          argumentosPedidos (decodeInstruccion ultima.2) s.registros) ∧
        (antes = [] ↔ ∀ entrada ∈ previas, Callada entrada)

theorem cuenta_inicial (PID TID : UInt32) (g : Mem) (registros : Registros) :
    Cuenta PID TID (bufferCreate g 0) (despacho g registros) [] := by
  refine ⟨rfl, ⟨fun _ entrada hentrada => ?_, fun _ => rfl⟩, fun previas ultima htraza => ?_⟩
  · cases hentrada
  · cases previas <;> cases htraza

section

variable {programa : List CString} {PID TID : UInt32} {buffer : TBuffer} {s s' : Ciclo}
  {evento : Evento} {campos : List Field}

/-- Every step of one call of `EjecutarProceso` keeps the account. -/
theorem Cuenta.avanzar (h : Cuenta PID TID buffer s campos) (hpunto : s.punto ≠ .fin)
    (hs : avanzar programa PID TID s evento = some s') :
    Cuenta PID TID buffer s' (campos ++ agregados programa PID TID s evento) := by
  cases evento with
  | interrupcion =>
    obtain rfl := Option.some.inj hs
    show Cuenta PID TID buffer _ (campos ++ [])
    rw [List.append_nil]
    exact ⟨h.escrito, h.vacio, h.pedido⟩
  | paso g respuesta =>
    cases avanzar_paso hs with
    | sale hcabeza hflag =>
      rw [agregados_eq_nil (lectura_desalojada hflag), List.append_nil]
      exact ⟨h.escrito, h.vacio, h.pedido⟩
    | avanza hprueba =>
      rw [agregados_eq_nil (lectura_fuera (by rw [hprueba]; decide)), List.append_nil]
      refine ⟨h.escrito, h.vacio, fun previas ultima htraza hpedido => ?_⟩
      -- after an eviction PC stays
      have hinterna := (h.pedido previas ultima htraza hpedido).1
      dsimp only
      rw [if_pos (by rw [hinterna]; rfl)]
      exact h.pedido previas ultima htraza hpedido
    | ejecuta hcabeza hflag inst hinst e he =>
      rw [agregados_ejecuta hcabeza hflag hinst]
      refine ⟨?_, ?_, fun previas ultima htraza hpedido => ?_⟩
      · show e.bufferRetorno = addFields buffer (campos ++ _)
        rw [addFields_append, ← h.escrito]
        exact executeInstruccion_campos he
      · rw [List.append_eq_nil_iff, h.vacio, camposDe_eq_nil_iff, List.forall_mem_append,
          List.forall_mem_singleton]
        rfl
      · obtain ⟨rfl, hultima⟩ := List.append_inj' htraza rfl
        obtain rfl := (List.cons.inj hultima).1
        obtain ⟨hregistros, hinterna⟩ := executeInstruccion_syscall he hpedido
        refine ⟨hinterna, campos, ?_, h.vacio⟩
        dsimp only
        rw [hregistros, camposDe_syscall PID TID s.registros hpedido]
    | reanuda hfin => exact absurd hfin hpunto

end

/-- **Exactly when the reply describes what ended the run**: for every program, every
register file and every call of `EjecutarProceso`, with interruptions anywhere, whose last
instruction is a syscall, the fields appended to `bufferRetorno` are the record of that
syscall alone if and only if no earlier instruction has a case in `executeInstruccion`. -/
theorem motivoFiel_iff (programa : List CString) (PID TID : UInt32) (g : Mem)
    (registros : Registros) (eventos : List Evento) (s : Ciclo)
    (hllamada : Along (avanzar programa PID TID) (fun s _ => s.punto ≠ .fin)
      (despacho g registros) eventos)
    (hrun : run (avanzar programa PID TID) (despacho g registros) eventos = some s)
    (ultima : UInt32 × CString) (hultima : s.traza.getLast? = some ultima)
    (hpedido : EsPedido ultima) :
    let campos := camposAgregados programa PID TID (despacho g registros) eventos
    s.bufferRetorno = addFields (bufferCreate g 0) campos ∧
      (MotivoFiel PID TID s campos ↔ ∀ entrada ∈ s.traza.dropLast, Callada entrada) := by
  intro campos
  have hcuenta : Cuenta PID TID (bufferCreate g 0) s campos :=
    run_output_invariant (fun _ _ _ _ h hpunto hs => h.avanzar hpunto hs)
      (cuenta_inicial PID TID g registros) hllamada hrun
  refine ⟨hcuenta.escrito, ?_⟩
  have htraza : s.traza = s.traza.dropLast ++ [ultima] :=
    (List.dropLast_append_getLast? ultima hultima).symm
  obtain ⟨-, antes, hcampos, hantes⟩ := hcuenta.pedido _ _ htraza hpedido
  have hpedida : syscallPedida PID TID s = some ⟨PID, TID,
      (decodeInstruccion ultima.2).instruccion.codigo,
      argumentosPedidos (decodeInstruccion ultima.2) s.registros⟩ := by
    unfold syscallPedida
    rw [hultima]
    rfl
  rw [← hantes]
  constructor
  · rintro ⟨pedida, hpedida', hsolo⟩
    obtain rfl := Option.some.inj (hpedida.symm.trans hpedida')
    exact List.append_left_eq_self.mp (hcampos.symm.trans hsolo)
  · rintro rfl
    exact ⟨_, hpedida, hcampos⟩

/-- A call that fetches `NOP`, an unknown mnemonic, and then `IO 5`. -/
theorem motivoFiel_io :
    ∃ s, run (avanzar [CString.ofBytes (ascii "NOP"), CString.ofBytes (ascii "IO 5")] 1 0)
        (despacho (fun _ => 0) ⟨0, 0, 0, 0, 0, 0, 0, 0, 0, 0, 64⟩)
        (List.replicate 5 (.paso (fun _ => 0) 0)) = some s ∧
      MotivoFiel 1 0 s (camposAgregados
        [CString.ofBytes (ascii "NOP"), CString.ofBytes (ascii "IO 5")] 1 0
        (despacho (fun _ => 0) ⟨0, 0, 0, 0, 0, 0, 0, 0, 0, 0, 64⟩)
        (List.replicate 5 (.paso (fun _ => 0) 0))) := by
  have htraza : (run (avanzar [CString.ofBytes (ascii "NOP"), CString.ofBytes (ascii "IO 5")] 1 0)
      (despacho (fun _ => 0) ⟨0, 0, 0, 0, 0, 0, 0, 0, 0, 0, 64⟩)
      (List.replicate 5 (.paso (fun _ => 0) 0))).map Ciclo.traza =
        some [(0, CString.ofBytes (ascii "NOP")), (1, CString.ofBytes (ascii "IO 5"))] := by
    decide
  obtain ⟨s, hs, htraza⟩ := Option.map_eq_some_iff.mp htraza
  refine ⟨s, hs, (motivoFiel_iff _ 1 0 _ _ _ s (by decide) hs
    (1, CString.ofBytes (ascii "IO 5")) ?_ (by decide)).2.mpr ?_⟩
  · rw [htraza]
    rfl
  · rw [htraza]
    decide

/-- A call that executes `SET AX 1` and `THREAD_EXIT`: its first record is that of
`SET`. -/
theorem not_motivoFiel_set :
    ∃ s, run (avanzar [CString.ofBytes (ascii "SET AX 1"), CString.ofBytes (ascii "THREAD_EXIT")]
        3 1) (despacho (fun _ => 0) ⟨0, 0, 0, 0, 0, 0, 0, 0, 0, 0, 64⟩)
        (List.replicate 5 (.paso (fun _ => 0) 0)) = some s ∧ s.punto = .fin ∧
      camposAgregados [CString.ofBytes (ascii "SET AX 1"), CString.ofBytes (ascii "THREAD_EXIT")]
        3 1 (despacho (fun _ => 0) ⟨0, 0, 0, 0, 0, 0, 0, 0, 0, 0, 64⟩)
        (List.replicate 5 (.paso (fun _ => 0) 0)) =
        [.uint32 3, .uint32 1, .int 0, .uint32 3, .uint32 1, .int 16] ∧
      syscallPedida 3 1 s = some ⟨3, 1, 16, []⟩ ∧
      ¬ MotivoFiel 3 1 s (camposAgregados
        [CString.ofBytes (ascii "SET AX 1"), CString.ofBytes (ascii "THREAD_EXIT")]
        3 1 (despacho (fun _ => 0) ⟨0, 0, 0, 0, 0, 0, 0, 0, 0, 0, 64⟩)
        (List.replicate 5 (.paso (fun _ => 0) 0))) := by
  have hcampos : camposAgregados
      [CString.ofBytes (ascii "SET AX 1"), CString.ofBytes (ascii "THREAD_EXIT")]
      3 1 (despacho (fun _ => 0) ⟨0, 0, 0, 0, 0, 0, 0, 0, 0, 0, 64⟩)
      (List.replicate 5 (.paso (fun _ => 0) 0)) =
        [.uint32 3, .uint32 1, .int 0, .uint32 3, .uint32 1, .int 16] := by decide
  have hrun : (run (avanzar
      [CString.ofBytes (ascii "SET AX 1"), CString.ofBytes (ascii "THREAD_EXIT")] 3 1)
      (despacho (fun _ => 0) ⟨0, 0, 0, 0, 0, 0, 0, 0, 0, 0, 64⟩)
      (List.replicate 5 (.paso (fun _ => 0) 0))).map
      (fun s => (s.punto, syscallPedida 3 1 s)) = some (.fin, some ⟨3, 1, 16, []⟩) := by decide
  obtain ⟨s, hs, hproj⟩ := Option.map_eq_some_iff.mp hrun
  obtain ⟨hfin, hpedida⟩ := Prod.mk.inj hproj
  refine ⟨s, hs, hfin, hcampos, hpedida, ?_⟩
  rintro ⟨pedida, hpedida', hsolo⟩
  obtain rfl := Option.some.inj (hpedida.symm.trans hpedida')
  rw [hcampos] at hsolo
  exact absurd hsolo (by decide)

end SoTp.Kernel
