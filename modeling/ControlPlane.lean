import ControlPlane.Main
import ControlPlane.Proofs.Error
import ControlPlane.Proofs.Gateway.Addressing
import ControlPlane.Proofs.Gateway.Export
import ControlPlane.Proofs.Gateway.Methods
import ControlPlane.Proofs.Gateway.Sites
import ControlPlane.Proofs.Gateway.Views
import ControlPlane.Proofs.Registry.Announcement
import ControlPlane.Proofs.Registry.Capacity
import ControlPlane.Proofs.Registry.Race
import ControlPlane.Proofs.Registry.Reordering
import ControlPlane.Proofs.Registry.Simulation
import ControlPlane.Proofs.Registry.Warnings
import ControlPlane.Proofs.Settings.Environment
import ControlPlane.Proofs.Settings.Outcome
import ControlPlane.Proofs.Wire.EndpointText
import ControlPlane.Proofs.Wire.MemberText
