import AgentsAtScale.Airline.Service

namespace AgentsAtScale.Agent

open Airline

/-- The zero time of Go is given as `none`. -/
structure RebookingRequest (Segment : Type) where
  bookingReference : String
  segmentId : Segment
  departureFrom : Option Timestamp
  departureTo : Option Timestamp

structure ReservationContext (Segment : Type) where
  request : RebookingRequest Segment
  reservation : ReservationDetails

structure SearchAlternativesResult (Segment : Type) where
  request : RebookingRequest Segment
  options : List RebookingOption

structure TravelCreditsResult (Segment : Type) where
  request : RebookingRequest Segment
  credits : List CreditValue

structure EvaluationResult (Segment : Type) where
  request : RebookingRequest Segment
  options : List RebookingOption
  credits : List CreditValue
  rankedOptionIds : List UUID := []
  summary : String := ""
  hasMatchingOption : Bool := false

def RebookingOption.offers (selection : RebookingSelection γ) (option : RebookingOption) : Bool :=
  option.flight.id = selection.newFlightId && option.fareClass.id = selection.newFareClassId

end AgentsAtScale.Agent
