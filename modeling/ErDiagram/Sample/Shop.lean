import ErDiagram.Metadata.Raw

/-!
# The shop sample

An online shop: users, their addresses and orders, and the products they order, in the schema `public`,
with figures of the sales in the schema `reporting`. One foreign key points to a table that the shop does
not have.
-/

namespace ErDiagram.Shop

/-- A column that always has a value. -/
def always (name dataType : String) : RawColumn := ⟨name, dataType, "NO", none⟩

/-- A column that always has a value, and one of its own when none is given. -/
def preset (name dataType default : String) : RawColumn := ⟨name, dataType, "NO", some default⟩

/-- A column that can be without a value. -/
def maybe (name dataType : String) : RawColumn := ⟨name, dataType, "YES", none⟩

/-- A column of numbers that a sequence deals out. -/
def numbered (table : String) : RawColumn :=
  preset "id" "integer" ("nextval('" ++ table ++ "_id_seq'::regclass)")

/-- The part of a primary key that a column is. -/
def primary (table column : String) : RawConstraint := ⟨table ++ "_pkey", "PRIMARY KEY", some column⟩

/-- The constraint that no two rows agree in a column. -/
def unique (table column : String) : RawConstraint :=
  ⟨table ++ "_" ++ column ++ "_key", "UNIQUE", some column⟩

/-- A reference of a column to a column of another table. -/
def reference (table column target targetColumn : String) : RawForeignKey :=
  ⟨table ++ "_" ++ column ++ "_fkey", column, target, targetColumn⟩

def entry (name : String) (rows : Int) (s : RawStructure) : Json :=
  .obj [("table_name", .str name), ("row_count", .int rows), ("structure", s.toJson)]

def users : Json :=
  entry "users" 1200
    { columns := [numbered "users", always "email" "character varying",
        maybe "name" "character varying", preset "created_at" "timestamp with time zone" "now()",
        preset "is_active" "boolean" "true"]
      constraints := [primary "users" "id", unique "users" "email"]
      foreignKeys := [] }

def addresses : Json :=
  entry "addresses" 1850
    { columns := [numbered "addresses", always "user_id" "integer",
        always "line1" "character varying", always "city" "character varying",
        always "country" "character"]
      constraints := [primary "addresses" "id",
        ⟨"addresses_user_id_fkey", "FOREIGN KEY", some "user_id"⟩]
      foreignKeys := [reference "addresses" "user_id" "users" "id"] }

def products : Json :=
  entry "products" 340
    { columns := [numbered "products", always "sku" "character varying",
        always "title" "character varying", preset "price" "numeric" "0"]
      constraints := [primary "products" "id"]
      foreignKeys := [] }

def orders : Json :=
  entry "orders" 5400
    { columns := [numbered "orders", always "user_id" "integer",
        maybe "shipping_address_id" "integer", maybe "billing_address_id" "integer",
        preset "currency_code" "character" "'EUR'::bpchar",
        preset "placed_at" "timestamp with time zone" "now()"]
      constraints := [primary "orders" "id"]
      foreignKeys := [reference "orders" "user_id" "users" "id",
        reference "orders" "shipping_address_id" "addresses" "id",
        reference "orders" "billing_address_id" "addresses" "id",
        reference "orders" "currency_code" "currencies" "code"] }

def orderItems : Json :=
  entry "order_items" 16100
    { columns := [always "order_id" "integer", always "product_id" "integer",
        preset "quantity" "integer" "1", always "unit_price" "numeric"]
      constraints := [primary "order_items" "order_id", primary "order_items" "product_id"]
      foreignKeys := [reference "order_items" "order_id" "orders" "id",
        reference "order_items" "product_id" "products" "id"] }

def dailySales : Json :=
  entry "daily_sales" 730
    { columns := [always "day" "date", preset "revenue" "numeric" "0"]
      constraints := [primary "daily_sales" "day"]
      foreignKeys := [] }

def topProducts : Json :=
  entry "top_products" 52
    { columns := [always "day" "date", always "rank" "integer", always "product_id" "integer"]
      constraints := []
      foreignKeys := [reference "top_products" "day" "daily_sales" "day"] }

def document : Json :=
  .obj [
    ("metadata", .obj [("domain", .str "ecommerce"), ("version", .str "1.0"),
      ("description",
        .str "Online shop schema with users, orders, products and a reporting schema")]),
    ("schemas", .obj [
      ("public", .obj [("tables", .arr [users, addresses, products, orders, orderItems])]),
      ("reporting", .obj [("tables", .arr [dailySales, topProducts])])])]

end ErDiagram.Shop
