import Schematron.Stage
import Schematron.Xml.Document

namespace Schematron

structure Trace where
  /-- The stages that started, first one first. -/
  started : List Stage
  /-- The stages that completed, with their results. -/
  results : List (Stage × Xml.Document)
  deriving DecidableEq

namespace Trace

def empty : Trace :=
  ⟨[], []⟩

def start (trace : Trace) (stage : Stage) : Trace :=
  { trace with started := trace.started ++ [stage] }

def complete (trace : Trace) (stage : Stage) (result : Xml.Document) : Trace :=
  { trace with results := trace.results ++ [(stage, result)] }

def result? (trace : Trace) (stage : Stage) : Option Xml.Document :=
  trace.results.lookup stage

end Trace
end Schematron
