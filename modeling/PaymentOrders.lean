import PaymentOrders.Main
import PaymentOrders.Proofs.CaseId.Generate
import PaymentOrders.Proofs.CheckDigit.Bytes
import PaymentOrders.Proofs.CommandLine.Endings
import PaymentOrders.Proofs.OrderId.Texts
import PaymentOrders.Proofs.Page.Limits
import PaymentOrders.Proofs.Service.Backup
import PaymentOrders.Proofs.Service.Blame
import PaymentOrders.Proofs.Service.Health
import PaymentOrders.Proofs.Service.Judging
import PaymentOrders.Proofs.Service.Migration
import PaymentOrders.Proofs.Service.Refusal
import PaymentOrders.Proofs.Service.Writes
import PaymentOrders.Proofs.Store.Independence
import PaymentOrders.Proofs.Store.Numbering
import PaymentOrders.Proofs.Store.Row.Rewritten
import PaymentOrders.Proofs.Wire.Documents
import PaymentOrders.Store.Draft
