import SoTp.Cpu.Anotaciones

/-!
# Programs without jumps

A program whose orders neither are syscalls nor write PC, when no write is refused, on a CPU that
is not interrupted (`cpu/src/cpu.c`, lines 22–35).

* `Orden.Lineal.vuelta`: one turn of the loop executes one order.
* `run_lineal`: **every order is executed once, in order**, the registers are those of the orders
  composed, and behind the last one there is nothing to fetch.
-/

namespace SoTp.Cpu

open SoTp.Lib SoTp.Utils

/-! ## Specification -/

/-- The order leaves the program counter alone, and is no syscall. -/
structure Orden.Lineal (orden : Orden) : Prop where
  destino : orden.destino ≠ some .PC
  sigue : ∀ s, orden = .renglon s → s.esSyscall = false

/-- The values after orders and what memoria answers to each. -/
def componer : List (Orden × UInt32) → Valores → Valores
  | [], R => R
  | (orden, respuesta) :: resto, R => componer resto (incrementar (orden.significado respuesta R))

/-- Turns of the loop, of two steps each; an order may ask memoria in the first one. -/
def eventosDe (vueltas : List ((Mem × UInt32) × (Mem × UInt32))) : List Evento :=
  vueltas.flatMap fun vuelta =>
    [.paso vuelta.1.1 vuelta.1.2, .paso vuelta.2.1 vuelta.2.2]

/-- What memoria answers in them. -/
def respuestasDe (vueltas : List ((Mem × UInt32) × (Mem × UInt32))) : List UInt32 :=
  vueltas.map fun vuelta => vuelta.1.2

/-! ## One order -/

section

variable {orden : Orden} {respuesta : UInt32} {R : Valores}

theorem Orden.Lineal.ejecutar (h : orden.Lineal) (hacepta : orden.desaloja respuesta = false) :
    orden.ejecutar respuesta R = some (orden.significado respuesta R, false) := by
  rw [← hacepta]
  cases orden with
  | vieja v operandos => rfl
  | renglon s =>
    cases s with
    | threadCreate f r => cases h.sigue _ rfl
    | _ => rfl

theorem Orden.Lineal.significado_PC (h : orden.Lineal)
    (hacepta : orden.desaloja respuesta = false) : orden.significado respuesta R .PC = R .PC :=
  ejecutar_destino (h.ejecutar hacepta) h.destino

/-- **A turn.** -/
theorem Orden.Lineal.vuelta {ordenes : List Orden} {s : Maquina} (h : orden.Lineal)
    (hacepta : orden.desaloja respuesta = false) (hs : EnCabeza R s)
    (horden : buscarOrden ordenes (R .PC) = some orden) (respuesta' : UInt32) :
    run (Maquina.avanzar ordenes) s [.paso respuesta, .paso respuesta'] =
      some ⟨.cabeza, incrementar (orden.significado respuesta R), false, false,
        s.contadores ++ [R .PC]⟩ := by
  obtain ⟨hpunto, hinterna, hrecibida, rfl⟩ := hs
  simp only [run, Maquina.avanzar, hpunto, hinterna, hrecibida, horden, h.ejecutar hacepta,
    Bool.or_self, Bool.false_eq_true, if_false, Option.bind_eq_bind, Option.bind_some]

end

theorem buscarOrden_ofNat {ordenes : List Orden} {n : ℕ} (hn : n < 2 ^ 31) :
    buscarOrden ordenes (UInt32.ofNat n) = ordenes[n]? := by
  have hpos : ¬ (UInt32.ofNat n).toInt32 < 0 := by
    rw [UInt32.toInt32_ofNat', Int32.lt_iff_toInt_lt, Int32.toInt_ofNat_of_lt hn]
    exact not_lt.mpr (Int.natCast_nonneg n)
  unfold buscarOrden
  rw [if_neg hpos, UInt32.toNat_ofNat_of_lt' (hn.trans (by decide))]

/-! ## All of them -/

/-- The rest of a program, from its first address on: by induction on it, one turn at a time. -/
theorem run_lineal_desde (previas resto : List Orden) (respuestas : List (UInt32 × UInt32))
    (hlen : respuestas.length = resto.length) (hlineal : ∀ orden ∈ resto, orden.Lineal)
    (hacepta : ∀ p ∈ resto.zip (respuestas.map Prod.fst), p.1.desaloja p.2 = false)
    (hmax : (previas ++ resto).length < 2 ^ 31) {R : Valores} {s : Maquina} (hs : EnCabeza R s)
    (hPC : R .PC = UInt32.ofNat previas.length) :
    ∃ R', R' = componer (resto.zip (respuestas.map Prod.fst)) R ∧
      R' .PC = UInt32.ofNat (previas ++ resto).length ∧
      run (Maquina.avanzar (previas ++ resto)) s
        (respuestas.flatMap fun r => [.paso r.1, .paso r.2]) =
        some ⟨.cabeza, R', false, false, s.contadores ++
          (List.range' previas.length resto.length).map UInt32.ofNat⟩ := by
  induction resto generalizing previas respuestas R s with
  | nil =>
    obtain rfl := List.length_eq_zero_iff.mp hlen
    obtain ⟨punto, valores, interna, recibida, contadores⟩ := s
    obtain ⟨rfl, rfl, rfl, rfl⟩ := hs
    refine ⟨valores, rfl, ?_, ?_⟩
    · rw [List.append_nil]
      exact hPC
    · show some _ = some _
      rw [List.length_nil, List.range'_zero, List.map_nil, List.append_nil]
  | cons orden resto ih =>
    obtain ⟨r, respuestas, rfl⟩ := List.exists_cons_of_length_eq_add_one hlen
    obtain ⟨hprimera, hresto⟩ := List.forall_mem_cons.mp hlineal
    rw [List.map_cons, List.zip_cons_cons] at hacepta
    obtain ⟨hacepta₁, hacepta₂⟩ := List.forall_mem_cons.mp hacepta
    have hprevias : previas ++ orden :: resto = (previas ++ [orden]) ++ resto := by
      rw [List.append_assoc, List.singleton_append]
    have hlt : previas.length < 2 ^ 31 :=
      lt_of_le_of_lt (by rw [List.length_append]; exact Nat.le_add_right _ _) hmax
    have horden : buscarOrden (previas ++ orden :: resto) (R .PC) = some orden := by
      rw [hPC, buscarOrden_ofNat hlt, List.getElem?_append_right (le_refl _), Nat.sub_self]
      rfl
    have hPC' : incrementar (orden.significado r.1 R) .PC =
        UInt32.ofNat (previas ++ [orden]).length := by
      unfold incrementar
      rw [Function.update_self, hprimera.significado_PC hacepta₁, hPC, List.length_append,
        List.length_singleton, UInt32.ofNat_add]
      rfl
    rw [hprevias] at hmax
    obtain ⟨R', hR', hfin, hrun⟩ := ih _ respuestas (Nat.succ.inj hlen) hresto hacepta₂ hmax
      (s := ⟨.cabeza, incrementar (orden.significado r.1 R), false, false,
        s.contadores ++ [R .PC]⟩) ⟨rfl, rfl, rfl, rfl⟩ hPC'
    refine ⟨R', hR', hprevias ▸ hfin, ?_⟩
    rw [List.flatMap_cons, run_append, hprimera.vuelta hacepta₁ hs horden, Option.bind_some,
      hprevias, hrun, List.length_append, List.length_singleton, List.length_cons,
      List.range'_succ, List.map_cons, hPC, List.append_assoc, List.singleton_append]

theorem map_abstraer_eventosDe (vueltas : List ((Mem × UInt32) × (Mem × UInt32))) :
    (eventosDe vueltas).map Evento.abstraer =
      (vueltas.map fun vuelta => (vuelta.1.2, vuelta.2.2)).flatMap
        fun r => [.paso r.1, .paso r.2] := by
  induction vueltas with
  | nil => rfl
  | cons vuelta vueltas ih =>
    unfold eventosDe at ih ⊢
    rw [List.flatMap_cons, List.map_append, ih]
    rfl

/-- **A program without jumps**, of fewer than 2^31 orders, dispatched at address 0, with as many
turns of the loop as it has orders: each is executed once, in order, and leaves in the registers
what it means there. Then the CPU asks memoria for an address behind the last one, and gets no
answer. -/
theorem run_lineal (ordenes : List Orden) (programa : List CString)
    (h : List.Forall₂ Orden.Escrita ordenes programa) (PID TID : UInt32) (g : Mem)
    (registros : Registros) (vueltas : List ((Mem × UInt32) × (Mem × UInt32)))
    (hmax : ordenes.length < 2 ^ 31) (hlineal : ∀ orden ∈ ordenes, orden.Lineal)
    (hPC : registros.PC = 0) (hlen : vueltas.length = ordenes.length)
    (hacepta : ∀ p ∈ ordenes.zip (respuestasDe vueltas), p.1.desaloja p.2 = false) :
    ∃ s, run (avanzar programa PID TID) (despacho g registros) (eventosDe vueltas) = some s ∧
      valor s.registros = componer (ordenes.zip (respuestasDe vueltas)) (valor registros) ∧
      s.traza.map Prod.fst = (List.range ordenes.length).map UInt32.ofNat ∧
      ∀ g' respuesta, avanzar programa PID TID s (.paso g' respuesta) = none := by
  have hrespuestas : (vueltas.map fun vuelta => (vuelta.1.2, vuelta.2.2)).map Prod.fst =
      respuestasDe vueltas := by
    rw [List.map_map]
    rfl
  obtain ⟨R, hR, hfin, hrun⟩ := run_lineal_desde [] ordenes
    (vueltas.map fun vuelta => (vuelta.1.2, vuelta.2.2))
    ((List.length_map _).trans hlen) hlineal (hrespuestas.symm ▸ hacepta) hmax
    (s := Maquina.inicial (valor registros)) ⟨rfl, rfl, rfl, rfl⟩ hPC
  rw [hrespuestas] at hR
  rw [← map_abstraer_eventosDe] at hrun
  have hmap := run_map (avanzar_abstraer h PID TID) (despacho g registros) (eventosDe vueltas)
  obtain ⟨s, hs, habstraer⟩ := Option.map_eq_some_iff.mp (hmap.trans hrun)
  refine ⟨s, hs, ?_, ?_, fun g' respuesta => ?_⟩
  · exact (congrArg Maquina.valores habstraer).trans hR
  · rw [List.range_eq_range']
    exact congrArg Maquina.contadores habstraer
  · -- there is no order at the next address
    have hnone : buscarOrden ordenes (R .PC) = none := by
      rw [hfin, List.nil_append, buscarOrden_ofNat hmax]
      exact List.getElem?_eq_none (le_refl _)
    have hpaso := avanzar_abstraer h PID TID s (.paso g' respuesta)
    rw [habstraer] at hpaso
    have hstuck : Maquina.avanzar ordenes ⟨.cabeza, R, false, false,
        [] ++ (List.range' 0 ordenes.length).map UInt32.ofNat⟩ (.paso respuesta) = none := by
      simp only [Maquina.avanzar, hnone, Bool.or_self, Bool.false_eq_true, if_false,
        Option.bind_eq_bind, Option.bind_none]
    exact Option.map_eq_none_iff.mp (hpaso.trans hstuck)

/-- `SET AX 7`, `SUM AX AX`. -/
theorem run_lineal_dos : ∃ s,
    run (avanzar [CString.ofBytes (ascii "SET AX 7"), CString.ofBytes (ascii "SUM AX AX")] 1 0)
        (despacho (fun _ => 0) ⟨0, 0, 0, 0, 0, 0, 0, 0, 0, 0, 64⟩)
        (eventosDe [((fun _ => 0, 0), (fun _ => 0, 0)), ((fun _ => 0, 0), (fun _ => 0, 0))]) =
      some s ∧ valor s.registros .AX = 14 ∧ s.traza.map Prod.fst = [0, 1] := by
  obtain ⟨s, hs, hvalor, htraza, -⟩ := run_lineal
    [.renglon (.set .AX ⟨ascii "7", by decide, by decide +kernel, by decide⟩),
      .renglon (.sum .AX .AX)]
    [CString.ofBytes (ascii "SET AX 7"), CString.ofBytes (ascii "SUM AX AX")]
    (.cons ⟨0, _, .token 0 (ascii "AX") (.token 0 (ascii "7") (.fin 0)), rfl⟩
      (.cons ⟨0, _, .token 0 (ascii "AX") (.token 0 (ascii "AX") (.fin 0)), rfl⟩ .nil)) 1 0
    (fun _ => 0) ⟨0, 0, 0, 0, 0, 0, 0, 0, 0, 0, 64⟩
    [((fun _ => 0, 0), (fun _ => 0, 0)), ((fun _ => 0, 0), (fun _ => 0, 0))] (by decide)
    (by
      intro orden hmem
      rcases List.mem_pair.mp hmem with rfl | rfl
      · exact ⟨by decide, fun s hs => by cases hs; rfl⟩
      · exact ⟨by decide, fun s hs => by cases hs; rfl⟩)
    rfl rfl (by
      intro p hmem
      rcases List.mem_pair.mp hmem with rfl | rfl
      · rfl
      · rfl)
  refine ⟨s, hs, ?_, htraza⟩
  rw [hvalor]
  decide

end SoTp.Cpu
